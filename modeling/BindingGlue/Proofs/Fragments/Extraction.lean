import BindingGlue.Fragments.Native
import BindingGlue.Proofs.Text.Occurrences
import BindingGlue.Proofs.Text.Runs

/-!
# How arguments are taken out of a call

Every argument with values has a block of extraction lines of its own, whatever its category: the
block reads the slot of the argument, once and no other, and its last line gives the value to a
variable with the argument's name (`Native.TakesOut`). The blocks stand in the order of the
arguments and are numbered from the front (`Native.exists_blocks`).

The counts rest on the texts that a block is put together from: names, spellings and numbers have
none of the brackets and dashes that the patterns are told by (`Unmarked`).
-/

namespace BindingGlue

open Text

variable {argument : Argument} {arguments : List Argument} {type : TypeEntry} {text : String}

/-! ### Texts without marks -/

/-- The characters that the counted patterns are told by. -/
def isPatternMark (c : Char) : Bool :=
  c == '[' || c == ']' || c == '-' || c == '.'

/-- The text has no bracket. -/
def Unbracketed (text : String) : Prop :=
  '[' ∉ text.toList ∧ ']' ∉ text.toList

/-- The text has no bracket, dash or full stop. -/
def Unmarked (text : String) : Prop :=
  '[' ∉ text.toList ∧ ']' ∉ text.toList ∧ '-' ∉ text.toList ∧ '.' ∉ text.toList

theorem unmarked_iff : Unmarked text ↔ (text.toList.all fun c ↦ !isPatternMark c) = true := by
  rw [List.all_eq_true]
  constructor
  · rintro ⟨hopen, hclose, hdash, hstop⟩ c hc
    rw [Bool.not_eq_true', ← Bool.not_eq_true]
    intro hmark
    simp only [isPatternMark, Bool.or_eq_true, beq_iff_eq] at hmark
    rcases hmark with ((rfl | rfl) | rfl) | rfl
    · exact hopen hc
    · exact hclose hc
    · exact hdash hc
    · exact hstop hc
  · intro h
    refine ⟨?_, ?_, ?_, ?_⟩
    all_goals
      intro hc
      exact absurd (h _ hc) (by decide)

instance : Decidable (Unmarked text) :=
  decidable_of_iff _ unmarked_iff.symm

/-- Marks are no word characters. -/
theorem unmarked_of_isWord (h : ∀ c ∈ text.toList, isWord c) : Unmarked text := by
  refine ⟨?_, ?_, ?_, ?_⟩
  all_goals exact not_mem_of_isWord h (by simp [isWord])

/-- A spelling without its pointer marks has no other characters. -/
theorem mem_of_mem_baseNative {c : Char} (h : c ∈ type.baseNative.toList) :
    c ∈ type.nativeSpelling.toList := by
  rw [TypeEntry.baseNative, String.toList_ofList] at h
  have hright := (List.rdropWhile_prefix isBlank _).subset h
  have hleft := (List.dropWhile_suffix isBlank).subset hright
  exact (List.rdropWhile_prefix (· == '*') _).subset hleft

/-- The digits of a number are word characters. -/
theorem isWord_of_mem_repr {n : Nat} : ∀ c ∈ n.repr.toList, isWord c := by
  intro c hc
  have hdigit : c.isDigit := by
    rw [Nat.toList_repr] at hc
    exact Nat.isDigit_of_mem_toDigits (by decide) (by decide) hc
  simp [isWord, Char.isAlphanum, hdigit]

theorem unmarked_repr (n : Nat) : Unmarked n.repr :=
  unmarked_of_isWord isWord_of_mem_repr

/-- The texts that code is put together from have no marks. -/
structure TypeEntry.IsUnmarked (type : TypeEntry) : Prop where
  nativeSpelling : Unmarked type.nativeSpelling
  baseNative : Unmarked type.baseNative
  wrapText : Unmarked type.wrapText
  accessorText : Unmarked type.accessorText

/-- The argument has values, and neither its name nor the texts of its type have marks. -/
structure Argument.IsPlain (argument : Argument) : Prop where
  hasValues : argument.type.category ≠ .void
  type : argument.type.IsUnmarked
  name : Unmarked argument.name

namespace Native

/-! ### Blocks -/

/-- The type that the variable of an argument is declared with. -/
def variableType (type : TypeEntry) : String :=
  if type.category = .object then type.baseNative ++ "*" else type.nativeSpelling

/-- The lines take the argument out of the slot at the index: they read this slot once and no
other, the last of them gives the value to a variable with the argument's name, and none of them
calls the native object. -/
structure TakesOut (argument : Argument) (index : Nat) (lines : List String) : Prop where
  reads_once : occurrences "info[".toList ("\n".intercalate lines).toList = 1
  reads_slot :
    occurrences ("info[" ++ index.repr ++ "]").toList ("\n".intercalate lines).toList = 1
  declares : ∃ value, lines.getLast? =
    some (variableType argument.type ++ " " ++ argument.name ++ " = " ++ value ++ ";")
  calls_nothing : ∀ line ∈ lines, occurrences "this->instance->".toList line.toList = 0

/-- One slot in a text without further brackets is one slot. -/
theorem occurrences_slot {before number after : String} (hbefore : Unbracketed before)
    (hnumber : Unbracketed number) (hafter : Unbracketed after) :
    occurrences "info[".toList (before ++ ("info[" ++ number ++ "]") ++ after).toList = 1 ∧
      occurrences ("info[" ++ number ++ "]").toList
        (before ++ ("info[" ++ number ++ "]") ++ after).toList = 1 := by
  constructor
  · have h := occurrences_marked (q := "info".toList) (c := '[') (s := before.toList)
      (t := number.toList ++ ']' :: after.toList) (by simp) hbefore.1
      (by simp [hnumber.1, hafter.1])
    simpa using h
  · have h := occurrences_marked (q := "info[".toList ++ number.toList) (c := ']')
      (s := before.toList) (t := after.toList) (by simp [hnumber.2]) hbefore.2 hafter.2
    simpa using h

/-- The lines have one slot, that of the index, and an assignment to the argument's variable at
the end. -/
def HasSlot (argument : Argument) (index : Nat) (lines : List String) : Prop :=
  ∃ before after value, Unbracketed before ∧ Unbracketed after ∧
    "\n".intercalate lines = before ++ ("info[" ++ index.repr ++ "]") ++ after ∧
    lines.getLast? =
      some (variableType argument.type ++ " " ++ argument.name ++ " = " ++ value ++ ";")

/-- An argument that is no object may be taken out by one assignment. -/
theorem hasSlot_assignment (h : argument.IsPlain) (hcategory : argument.type.category ≠ .object)
    {index : Nat} {line : String} (head tail : String) (hhead : Unbracketed head)
    (htail : Unbracketed tail)
    (hline : line = argument.type.nativeSpelling ++ " " ++ argument.name ++ " = " ++
      (head ++ ("info[" ++ index.repr ++ "]") ++ tail) ++ ";") :
    HasSlot argument index [line] := by
  obtain ⟨hnameOpen, hnameClose, -, -⟩ := h.name
  obtain ⟨hspellingOpen, hspellingClose, -, -⟩ := h.type.nativeSpelling
  obtain ⟨hheadOpen, hheadClose⟩ := hhead
  obtain ⟨htailOpen, htailClose⟩ := htail
  refine ⟨argument.type.nativeSpelling ++ " " ++ argument.name ++ " = " ++ head, tail ++ ";",
    head ++ ("info[" ++ index.repr ++ "]") ++ tail, ?_, ?_, ?_, ?_⟩
  · simp [Unbracketed, hnameOpen, hnameClose, hspellingOpen, hspellingClose, hheadOpen, hheadClose]
  · simp [Unbracketed, htailOpen, htailClose]
  · simp only [hline, String.intercalate_singleton, String.append_assoc]
  · simp [hline, variableType, hcategory]

/-- The lines of an argument have its slot. -/
theorem exists_hasSlot (h : argument.IsPlain) (index : Nat) :
    ∃ lines, extraction argument index = .ok lines ∧ HasSlot argument index lines := by
  obtain ⟨hnameOpen, hnameClose, -, -⟩ := h.name
  obtain ⟨hspellingOpen, hspellingClose, -, -⟩ := h.type.nativeSpelling
  obtain ⟨hbaseOpen, hbaseClose, -, -⟩ := h.type.baseNative
  obtain ⟨hwrapOpen, hwrapClose, -, -⟩ := h.type.wrapText
  obtain ⟨haccessorOpen, haccessorClose, -, -⟩ := h.type.accessorText
  simp only [extraction]
  cases hcategory : argument.type.category with
  | void => exact absurd hcategory h.hasValues
  | boolean =>
    refine ⟨_, rfl, hasSlot_assignment h (by simp [hcategory]) "" ".As<Napi::Boolean>().Value()"
      ?_ ?_ ?_⟩
    · simp [Unbracketed]
    · simp [Unbracketed]
    · simp [String.append_assoc]
  | signedInteger | unsignedInteger | floatingPoint =>
    refine ⟨_, rfl, hasSlot_assignment h (by simp [hcategory]) ""
      (".As<Napi::Number>()." ++ argument.type.accessorText ++ "()") ?_ ?_ ?_⟩
    · simp [Unbracketed]
    · simp [Unbracketed, haccessorOpen, haccessorClose]
    · rw [← String.toList_inj]
      simp
  | enumeration =>
    refine ⟨_, rfl, hasSlot_assignment h (by simp [hcategory])
      ("static_cast<" ++ argument.type.nativeSpelling ++ ">(")
      (".As<Napi::Number>()." ++ argument.type.accessorText ++ "())") ?_ ?_ ?_⟩
    · simp [Unbracketed, hspellingOpen, hspellingClose]
    · simp [Unbracketed, haccessorOpen, haccessorClose]
    · rw [← String.toList_inj]
      simp
  | string =>
    -- the slot is read into a text of its own, which the variable is made from
    refine ⟨_, rfl, "std::string " ++ argument.name ++ "NapiText = ",
      ".As<Napi::String>().Utf8Value();\n" ++ argument.type.nativeSpelling ++ " " ++
        argument.name ++ " = " ++ argument.type.nativeSpelling ++ "::fromStdString(" ++
        argument.name ++ "NapiText);",
      argument.type.nativeSpelling ++ "::fromStdString(" ++ argument.name ++ "NapiText)",
      ?_, ?_, ?_, ?_⟩
    · simp [Unbracketed, hnameOpen, hnameClose]
    · simp [Unbracketed, hnameOpen, hnameClose, hspellingOpen, hspellingClose]
    · rw [← String.toList_inj]
      simp
    · simp [variableType, hcategory, String.append_assoc]
  | object =>
    -- the slot is read into an object, that is unwrapped, and the variable is the native part
    refine ⟨_, rfl, "Napi::Object " ++ argument.name ++ "Object = ",
      ".As<Napi::Object>();\n" ++ argument.type.wrapText ++ "* " ++ argument.name ++
        "Wrap = Napi::ObjectWrap<" ++ argument.type.wrapText ++ ">::Unwrap(" ++ argument.name ++
        "Object);\n" ++ argument.type.baseNative ++ "* " ++ argument.name ++ " = " ++
        argument.name ++ "Wrap->getInternalInstance();",
      argument.name ++ "Wrap->getInternalInstance()", ?_, ?_, ?_, ?_⟩
    · simp [Unbracketed, hnameOpen, hnameClose]
    · simp [Unbracketed, hnameOpen, hnameClose, hbaseOpen, hbaseClose, hwrapOpen, hwrapClose]
    · rw [← String.toList_inj]
      simp
    · simp [variableType, hcategory, String.append_assoc]

theorem occurrences_call_of_unmarked {s : List Char} (h : '-' ∉ s) :
    occurrences "this->instance->".toList s = 0 :=
  occurrences_eq_zero (by simp) h

/-- No line of a block calls a method. -/
theorem occurrences_call_of_extraction (hplain : argument.IsPlain) {index : Nat}
    {lines : List String} (h : extraction argument index = .ok lines) {line : String}
    (hline : line ∈ lines) :
    occurrences "this->instance->".toList line.toList = 0 := by
  obtain ⟨-, -, hname, -⟩ := hplain.name
  obtain ⟨-, -, hspelling, -⟩ := hplain.type.nativeSpelling
  obtain ⟨-, -, hbase, -⟩ := hplain.type.baseNative
  obtain ⟨-, -, hwrap, -⟩ := hplain.type.wrapText
  obtain ⟨-, -, haccessor, -⟩ := hplain.type.accessorText
  obtain ⟨-, -, hindex, -⟩ := unmarked_repr index
  simp only [extraction] at h
  generalize index.repr = number at hindex h
  cases hcategory : argument.type.category with
  | void => exact absurd hcategory hplain.hasValues
  | boolean | signedInteger | unsignedInteger | floatingPoint | enumeration =>
    simp only [hcategory, Except.ok.injEq] at h
    subst h
    obtain rfl := List.mem_singleton.1 hline
    exact occurrences_call_of_unmarked (by simp [hname, hspelling, haccessor, hindex])
  | string =>
    simp only [hcategory, Except.ok.injEq] at h
    subst h
    simp only [List.mem_cons, List.not_mem_nil, or_false] at hline
    rcases hline with rfl | rfl
    all_goals exact occurrences_call_of_unmarked (by simp [hname, hspelling, hindex])
  | object =>
    simp only [hcategory, Except.ok.injEq] at h
    subst h
    simp only [List.mem_cons, List.not_mem_nil, or_false] at hline
    rcases hline with rfl | rfl | rfl
    · exact occurrences_call_of_unmarked (by simp [hname, hindex])
    · exact occurrences_call_of_unmarked (by simp [hname, hwrap])
    · have htext : (argument.type.baseNative ++ "* " ++ argument.name ++ " = " ++ argument.name ++
          "Wrap->getInternalInstance();").toList =
          (argument.type.baseNative ++ "* " ++ argument.name ++ " = " ++ argument.name).toList ++
            'W' :: "rap->getInternalInstance();".toList := by
        simp
      -- the dash of this line follows no instance
      rw [htext, occurrences_append_cons (by simp) (by simp),
        occurrences_call_of_unmarked (by simp [hname, hbase]),
        occurrences_eq_zero (by simp : 'h' ∈ _) (by simp)]

/-- A plain argument has a block that takes it out. -/
theorem exists_block (h : argument.IsPlain) (index : Nat) :
    ∃ lines, extraction argument index = .ok lines ∧ TakesOut argument index lines := by
  obtain ⟨lines, hlines, before, after, value, hbefore, hafter, htext, hlast⟩ :=
    exists_hasSlot h index
  obtain ⟨hopen, hclose, -, -⟩ := unmarked_repr index
  obtain ⟨honce, hslot⟩ := occurrences_slot hbefore ⟨hopen, hclose⟩ hafter
  rw [← htext] at honce hslot
  exact ⟨lines, hlines, honce, hslot, ⟨value, hlast⟩,
    fun line hline ↦ occurrences_call_of_extraction h hlines hline⟩

/-- The extraction lines of arguments are one block after the other, each at the index of its
argument. -/
theorem exists_blocks (h : ∀ argument ∈ arguments, argument.IsPlain) (index : Nat) :
    ∃ blocks, extractions index arguments = .ok blocks.flatten ∧
      List.Forall₂ (fun entry lines ↦ TakesOut entry.1 entry.2 lines)
        (arguments.zipIdx index) blocks := by
  induction arguments generalizing index with
  | nil => exact ⟨[], rfl, .nil⟩
  | cons argument arguments ih =>
    obtain ⟨lines, hlines, htakes⟩ := exists_block (h argument List.mem_cons_self) index
    obtain ⟨blocks, hblocks, hothers⟩ :=
      ih (fun other hother ↦ h other (List.mem_cons_of_mem _ hother)) (index + 1)
    refine ⟨lines :: blocks, ?_, ?_⟩
    · rw [extractions, hlines, hblocks]
      rfl
    · rw [List.zipIdx_cons]
      exact .cons htakes hothers

/-- No line of the blocks calls a method. -/
theorem occurrences_call_of_blocks {entries : List (Argument × Nat)} {blocks : List (List String)}
    (h : List.Forall₂ (fun entry lines ↦ TakesOut entry.1 entry.2 lines) entries blocks) :
    ∀ line ∈ blocks.flatten, occurrences "this->instance->".toList line.toList = 0 := by
  induction h with
  | nil => simp
  | cons htakes _ ih =>
    intro line hline
    rw [List.flatten_cons, List.mem_append] at hline
    rcases hline with hline | hline
    · exact htakes.calls_nothing line hline
    · exact ih line hline

end Native

end BindingGlue
