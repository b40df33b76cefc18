import Mathlib.Logic.Relation
import BindingGlue.CommandLine.Settings

/-!
# Settings that the command line can make

Arguments that are accepted take the settings from their defaults through one option after another
(`Settings.reaches_of_read`), so what every option keeps holds of all settings that can be made. The
level of the log is such a thing: it is not set, or it is one of those on offer. A log is therefore
never refused for its level, only for its layout (`Settings.exists_logSetup_eq_ok`).
-/

namespace BindingGlue.CommandLine

open Relation

variable {settings settings' : Settings} {switch : Switch} {switches : List Switch}
  {items : List Item} {arguments texts : List String} {text : String}

theorem bind_eq_ok {ε α β : Type} {x : Except ε α} {f : α → Except ε β} {b : β} :
    (x >>= f) = .ok b ↔ ∃ a, x = .ok a ∧ f a = .ok b := by
  cases x <;> simp [bind, Except.bind]

namespace Settings

/-! ### One option after another -/

/-- An option takes effect. -/
inductive Step : Settings → Settings → Prop
  /-- An option without a value. -/
  | flag {settings settings' : Settings} {switch : Switch}
      (h : settings.setFlag switch = .ok settings') : Step settings settings'
  /-- An option with a value. -/
  | value {settings settings' : Settings} {switch : Switch} {text : String}
      (h : settings.setValue switch text = .ok settings') : Step settings settings'

theorem reaches_of_setFlags (h : settings.setFlags switches = .ok settings') :
    ReflTransGen Step settings settings' := by
  induction switches generalizing settings with
  | nil =>
    obtain rfl := Except.ok.inj h
    exact .refl
  | cons switch switches ih =>
    obtain ⟨next, hflag, hflags⟩ := bind_eq_ok.1 h
    exact .head (.flag hflag) (ih hflags)

theorem reaches_of_apply (h : settings.apply items = .ok (settings', texts)) :
    ReflTransGen Step settings settings' := by
  fun_induction settings.apply items generalizing settings' texts with
  | case1 settings =>
    cases h
    exact .refl
  | case2 settings text items ih | case3 settings items ih | case4 settings text items ih =>
    -- a text that is no part of an option sets nothing
    obtain ⟨⟨next, others⟩, happly, hpure⟩ := bind_eq_ok.1 h
    cases hpure
    exact ih happly
  | case5 settings switch isShort value items _ ih | case8 settings switch _ _ value items ih =>
    obtain ⟨next, hvalue, happly⟩ := bind_eq_ok.1 h
    exact .head (.value hvalue) (ih next happly)
  | case6 settings switch isShort value items _ _ ih =>
    obtain ⟨switches, -, h⟩ := bind_eq_ok.1 h
    obtain ⟨next, hflags, happly⟩ := bind_eq_ok.1 h
    exact (reaches_of_setFlags hflags).trans (ih next happly)
  | case7 | case9 => cases h
  | case10 settings switch isShort items _ ih =>
    obtain ⟨next, hflag, happly⟩ := bind_eq_ok.1 h
    exact .head (.flag hflag) (ih next happly)

/-- Accepted arguments take the defaults to the settings that are read. -/
theorem reaches_of_read (h : read arguments = .ok settings) :
    ReflTransGen Step {} settings := by
  obtain ⟨items, -, h⟩ := bind_eq_ok.1 h
  obtain ⟨⟨reached, texts⟩, happly, h⟩ := bind_eq_ok.1 h
  dsimp only at h
  split at h
  · cases h
    exact reaches_of_apply happly
  · cases h

/-! ### The level of the log -/

/-- The level of the log, if it is set, is one of those on offer. -/
def LevelIsOffered (settings : Settings) : Prop :=
  ∀ name, settings.logLevel.text? = some name → name ∈ levelChoices

/-- A flag leaves the level of the log as it is. -/
theorem logLevel_of_setFlag (h : settings.setFlag switch = .ok settings') :
    settings'.logLevel = settings.logLevel := by
  cases switch
  all_goals cases h
  all_goals rfl

theorem logLevel_of_setValue (h : settings.setValue switch text = .ok settings') :
    settings'.logLevel = settings.logLevel ∨ settings'.logLevel = .cleared ∨
      settings'.logLevel = .given text ∧ text ∈ levelChoices := by
  cases switch
  case logLevel =>
    rw [setValue] at h
    by_cases htext : text = "--"
    · simp only [htext, if_true, decide_true, Bool.true_or] at h
      cases h
      exact .inr (.inl rfl)
    · simp only [htext, if_false, reduceCtorEq, decide_false, Bool.false_or,
        List.contains_iff_mem] at h
      split at h
      case isTrue hoffered =>
        cases h
        exact .inr (.inr ⟨rfl, hoffered⟩)
      case isFalse => cases h
  all_goals cases h
  all_goals exact .inl rfl

theorem Step.levelIsOffered (h : Step settings settings') (hlevel : settings.LevelIsOffered) :
    settings'.LevelIsOffered := by
  intro name hname
  cases h with
  | flag h => exact hlevel name (logLevel_of_setFlag h ▸ hname)
  | value h =>
    rcases logLevel_of_setValue h with hsame | hcleared | ⟨hgiven, hoffered⟩
    · exact hlevel name (hsame ▸ hname)
    · rw [hcleared] at hname
      cases hname
    · rw [hgiven, Setting.text?] at hname
      split at hname
      · cases hname
      · exact Option.some.inj hname ▸ hoffered

theorem levelIsOffered_of_read (h : read arguments = .ok settings) : settings.LevelIsOffered := by
  have hreaches := reaches_of_read h
  clear h
  induction hreaches with
  | refl =>
    intro name hname
    cases hname
  | tail _ hstep ih => exact hstep.levelIsOffered ih

/-- A level on offer is a level. -/
theorem exists_level_eq_ok (h : settings.LevelIsOffered) :
    ∃ level, settings.levelChoice.level = .ok level := by
  have hoffered : ∀ name ∈ levelChoices, ∃ level, Log.Level.ofName name = .ok level := by
    have hdecided : ∀ name ∈ levelChoices, (Log.Level.ofName name).toBool = true := by
      decide
    intro name hname
    have hok := hdecided name hname
    cases hlevel : Log.Level.ofName name with
    | ok level => exact ⟨level, rfl⟩
    | error fault =>
      rw [hlevel] at hok
      cases hok
  rw [levelChoice]
  split
  case h_1 name hname => exact hoffered name (h name hname)
  case h_2 => exact ⟨_, rfl⟩

/-- With accepted arguments there is a log in any layout. -/
theorem exists_logSetup_eq_ok {layout : Log.Layout} (hread : read arguments = .ok settings)
    (hlayout : Log.Layout.read (settings.logFormat.text?.getD "") = .ok layout) :
    ∃ setup, settings.logSetup = .ok setup := by
  obtain ⟨level, hlevel⟩ := exists_level_eq_ok (levelIsOffered_of_read hread)
  exact ⟨{ level, layout }, by rw [logSetup, Log.Setup.read, hlevel, hlayout]; rfl⟩

end Settings

end BindingGlue.CommandLine
