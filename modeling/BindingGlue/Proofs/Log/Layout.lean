import BindingGlue.Log.Setup

/-!
# How layouts are filled in

A layout is filled in piece by piece: text without a percent sign is written as it stands
(`Log.fillLayout?_text`), and a directive writes its part of the record
(`Log.fillLayout?_directive`). The standard layout is put together from these. It writes a line of
every record, with the name of the level in front of the message (`Log.Layout.line?_standard`).
-/

namespace BindingGlue.Log

open Text

variable {record : Record} {directive : Directive} {s rest written : List Char}

/-! ### Pieces of a layout -/

/-- The characters that a directive covers are passed over. -/
theorem fillLayout?_covered (record : Record) (s rest : List Char) :
    fillLayout? record s.length (s ++ rest) = fillLayout? record 0 rest := by
  induction s with
  | nil => rfl
  | cons c cs ih => exact ih

/-- Text without a percent sign is written as it stands. -/
theorem fillLayout?_text (record : Record) (hs : '%' ∉ s) (rest : List Char) :
    fillLayout? record 0 (s ++ rest) = (fillLayout? record 0 rest).map (s ++ ·) := by
  induction s with
  | nil => exact Option.map_id.symm ▸ rfl
  | cons c cs ih =>
    rw [List.mem_cons, not_or] at hs
    rw [List.cons_append, fillLayout?, ih hs.2]
    · cases fillLayout? record 0 rest <;> rfl
    · exact fun _ hc ↦ absurd hc.symm hs.1
    · exact fun hc ↦ absurd hc.symm hs.1

/-- A directive writes its part of the record. -/
theorem fillLayout?_directive (h : takeDirective? ('(' :: s ++ rest) = some (directive, rest))
    (hwritten : directive.write? record = some written) :
    fillLayout? record 0 ('%' :: '(' :: s ++ rest) =
      (fillLayout? record 0 rest).map (written ++ ·) := by
  have hcovered : ('(' :: s ++ rest).length - rest.length = ('(' :: s).length := by
    rw [List.length_append, Nat.add_sub_cancel]
  rw [List.cons_append, List.cons_append, fillLayout?]
  · rw [List.cons_append] at h hcovered
    simp only [h, hwritten, hcovered, Option.bind_eq_bind, Option.bind_some]
    rw [← List.cons_append, fillLayout?_covered]
    cases fillLayout? record 0 rest <;> rfl
  · exact fun _ hc ↦ absurd (List.cons.inj hc).1 (by decide)

/-- The directive for a part of the record as it stands. -/
def Directive.plain (part : String) : Directive where
  part := part
  isLeft := false
  width := 0
  limit? := none
  letter := 's'

theorem Directive.write?_plain {part text : String} (h : (plain part).part? record = some text) :
    (plain part).write? record = some text.toList := by
  rw [write?, h]
  simp [shown?, plain, limited, padded]

/-! ### The standard layout -/

namespace Layout

/-- The layout that is used when no other is chosen. -/
def standard : Layout where
  text := standardText
  directive_occurs := by decide

/-- The part of the standard layout for the message. -/
def messageText : List Char :=
  '%' :: '(' :: "message)s".toList ++ []

/-- The standard layout writes the name of the level and the message. -/
theorem fillLayout?_standard (record : Record) :
    fillLayout? record 0 standard.text.toList =
      some (record.level.shown.toList ++ (": ".toList ++ record.message.toList)) := by
  have htext : standard.text.toList =
      '%' :: '(' :: "levelname)s".toList ++ (": ".toList ++ messageText) := by
    decide
  have hlevel : takeDirective? ('(' :: "levelname)s".toList ++ (": ".toList ++ messageText)) =
      some (.plain "levelname", ": ".toList ++ messageText) := by
    decide
  have hmessage : takeDirective? ('(' :: "message)s".toList ++ []) =
      some (.plain "message", []) := by
    decide
  rw [htext, fillLayout?_directive hlevel (Directive.write?_plain rfl),
    fillLayout?_text record (by decide), messageText,
    fillLayout?_directive hmessage (Directive.write?_plain rfl), fillLayout?]
  simp

/-- So it writes one line of a record without an account of a fault. -/
theorem line?_standard (h : record.isTraced = false) :
    standard.line? record = some (record.level.shown ++ ": " ++ record.message ++ "\n") := by
  have hend : ∀ line, lineEnd record line = ['\n'] := fun line ↦ by rw [lineEnd, h]; rfl
  rw [line?, fillLayout?_standard, Option.map_some, hend]
  refine congrArg some (String.toList_injective ?_)
  simp

end Layout

end BindingGlue.Log
