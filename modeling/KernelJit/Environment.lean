/-
The environment: settings of variables, and how a variable is read from them.

A setting is one line of text: the name of a variable, an equals sign and the value.
To read a variable is to find the line that starts with its name and an equals sign;
what follows is the answer.  No name that is set holds an equals sign, but one that is
read may, and then it reaches into a value.  With `x` set to `a=b`, the variable `x`
reads as `a=b` and the variable `x=a` reads as `b`.
-/
namespace KernelJit

/-- The values of the variables that are set and readable. -/
abbrev Environment := String → Option String

/-- A variable and its value. -/
structure Setting where
  name : String
  value : String
deriving DecidableEq

namespace Setting

/-- The characters of a setting, with the equals sign between name and value. -/
def line (setting : Setting) : List Char :=
  setting.name.toList ++ '=' :: setting.value.toList

/-- What a setting says about a variable: the part of its line after the variable and
an equals sign, if the line starts with these. -/
def read? (setting : Setting) (var : String) : Option String :=
  let start := var.toList ++ ['=']
  if start.isPrefixOf setting.line then
    some (String.ofList (setting.line.drop start.length))
  else none

end Setting

/-- The settings that are in force. -/
structure Settings where
  entries : List Setting := []

namespace Settings

/-- No variable is set. -/
def empty : Settings := {}

/-- Set a variable to `value`, or unset it. -/
def set (settings : Settings) (name : String) (value : Option String) : Settings :=
  let others := settings.entries.filter fun setting => setting.name ≠ name
  match value with
  | some value => { entries := ⟨name, value⟩ :: others }
  | none => { entries := others }

/-- The environment that the settings make. -/
def environment (settings : Settings) : Environment := fun var =>
  settings.entries.findSome? fun setting => setting.read? var

end Settings

/-! ## Reading after setting -/

namespace Setting

theorem read?_name (setting : Setting) : setting.read? setting.name = some setting.value := by
  have hstart : setting.name.toList ++ ['='] <+: setting.line :=
    ⟨setting.value.toList, by simp [line]⟩
  rw [read?, if_pos (List.isPrefixOf_iff_prefix.mpr hstart)]
  simp [line]

/-- Two texts without an equals sign that start the same line are equal. -/
theorem eq_of_prefix_line {start name value : List Char} (hstart : '=' ∉ start)
    (hname : '=' ∉ name) (h : start ++ ['='] <+: name ++ '=' :: value) : start = name := by
  induction start generalizing name with
  | nil =>
    cases name with
    | nil => rfl
    | cons c name =>
      have hc : '=' = c := by simpa using h
      exact absurd (List.mem_cons.mpr (Or.inl hc)) hname
  | cons c start ih =>
    cases name with
    | nil =>
      have hc : c = '=' := by
        simp only [List.cons_append, List.nil_append, List.cons_prefix_cons] at h
        exact h.1
      exact absurd (List.mem_cons.mpr (Or.inl hc.symm)) hstart
    | cons d name =>
      simp only [List.cons_append, List.cons_prefix_cons] at h
      rw [h.1, ih (fun hmem => hstart (List.mem_cons.mpr (Or.inr hmem)))
        (fun hmem => hname (List.mem_cons.mpr (Or.inr hmem))) h.2]

/-- Between names without an equals sign, a setting speaks of its own variable only. -/
theorem read?_of_ne {setting : Setting} {var : String} (hvar : '=' ∉ var.toList)
    (hname : '=' ∉ setting.name.toList) (h : var ≠ setting.name) : setting.read? var = none := by
  rw [read?, if_neg]
  intro hprefix
  exact h (String.toList_inj.mp
    (eq_of_prefix_line hvar hname (List.isPrefixOf_iff_prefix.mp hprefix)))

end Setting

namespace Settings

theorem environment_empty (var : String) : empty.environment var = none := rfl

theorem environment_set_self (settings : Settings) (name value : String) :
    (settings.set name (some value)).environment name = some value := by
  simp only [set, environment, List.findSome?_cons]
  rw [Setting.read?_name ⟨name, value⟩]

/-- Leaving out the settings of one variable changes no other. -/
theorem findSome?_filter_of_ne {name var : String} (hvar : '=' ∉ var.toList)
    (hname : '=' ∉ name.toList) (h : var ≠ name) (entries : List Setting) :
    (entries.filter fun setting => setting.name ≠ name).findSome? (·.read? var) =
      entries.findSome? (·.read? var) := by
  induction entries with
  | nil => rfl
  | cons setting rest ih =>
    by_cases hsame : setting.name = name
    · have hnone : setting.read? var = none :=
        Setting.read?_of_ne hvar (hsame ▸ hname) (fun heq => h (heq.trans hsame))
      rw [List.filter_cons_of_neg (by simp [hsame]), ih, List.findSome?_cons, hnone]
    · rw [List.filter_cons_of_pos (by simp [hsame]), List.findSome?_cons, List.findSome?_cons, ih]

/-- Setting one variable leaves the others as they are. -/
theorem environment_set_of_ne (settings : Settings) {name var : String}
    (hvar : '=' ∉ var.toList) (hname : '=' ∉ name.toList) (h : var ≠ name)
    (value : Option String) :
    (settings.set name value).environment var = settings.environment var := by
  cases value with
  | none => exact findSome?_filter_of_ne hvar hname h _
  | some value =>
    have hnone : Setting.read? ⟨name, value⟩ var = none := Setting.read?_of_ne hvar hname h
    simp only [set, environment, List.findSome?_cons, hnone]
    exact findSome?_filter_of_ne hvar hname h _

end Settings
end KernelJit
