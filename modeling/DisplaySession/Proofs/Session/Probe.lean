import DisplaySession.Proofs.Text.Numeral
import DisplaySession.Session.Probe

/-
What the process table tool says about a display.

The tool is open in every respect: it may not be there, it may end with any status or by a signal,
and it may print any bytes. Of all its answers one kind says that a display runs, the numbers behind
a status of zero (`ofAnswer_eq_present_iff`), and one says that none does, the status of one
(`ofAnswer_eq_absent_iff`). Every other answer is a failed look.
-/
set_option autoImplicit false

namespace DisplaySession

namespace Probe

/-- **The numbers on some lines**: a line that is a numeral for its whole length, but for white
space around it, counts with its value, and every other line is passed over. -/
inductive Numbers : List (List Char) → List UInt32 → Prop
  | none : Numbers [] []
  | number {line : List Char} {lines : List (List Char)} {n : UInt32} {ns : List UInt32}
    (hline : Text.IsNumeral (Text.trim line) n.toNat) (hlines : Numbers lines ns) :
    Numbers (line :: lines) (n :: ns)
  | other {line : List Char} {lines : List (List Char)} {ns : List UInt32}
    (hline : ∀ n : UInt32, ¬ Text.IsNumeral (Text.trim line) n.toNat)
    (hlines : Numbers lines ns) : Numbers (line :: lines) ns

/-- The number on a line, if it is one. -/
def numberOn? (line : List Char) : Option UInt32 :=
  Text.uint32? (Text.trim line)

theorem numberOn?_eq_some_iff {line : List Char} {n : UInt32} :
    numberOn? line = some n ↔ Text.IsNumeral (Text.trim line) n.toNat :=
  Text.uint32?_eq_some_iff

theorem numberOn?_eq_none_iff {line : List Char} :
    numberOn? line = none ↔ ∀ n : UInt32, ¬ Text.IsNumeral (Text.trim line) n.toNat := by
  simp only [Option.eq_none_iff_forall_ne_some, ne_eq, numberOn?_eq_some_iff]

theorem numbers_filterMap (lines : List (List Char)) :
    Numbers lines (lines.filterMap numberOn?) := by
  induction lines with
  | nil => exact .none
  | cons line lines ih =>
    cases h : numberOn? line with
    | none =>
      rw [List.filterMap_cons_none h]
      exact .other (numberOn?_eq_none_iff.mp h) ih
    | some n =>
      rw [List.filterMap_cons_some h]
      exact .number (numberOn?_eq_some_iff.mp h) ih

theorem filterMap_of_numbers {lines : List (List Char)} {ns : List UInt32} (h : Numbers lines ns) :
    lines.filterMap numberOn? = ns := by
  induction h with
  | none => rfl
  | number hline _ ih => rw [List.filterMap_cons_some (numberOn?_eq_some_iff.mpr hline), ih]
  | other hline _ ih => rw [List.filterMap_cons_none (numberOn?_eq_none_iff.mpr hline), ih]

/-- **The numbers in an output are those on its lines.** -/
theorem pids_eq_iff {output : List Char} {ns : List UInt32} :
    pids output = ns ↔ Numbers (Text.lines output) ns := by
  constructor
  · rintro rfl
    exact numbers_filterMap (Text.lines output)
  · exact filterMap_of_numbers

end Probe

namespace Tool.Answer

/-- **The tool lists these processes**: it ended well and printed their numbers, and at least one.
-/
def Lists (answer : Tool.Answer) (pids : List UInt32) : Prop :=
  ∃ output errors, answer = .finished (.exited 0) output errors ∧
    Probe.Numbers (Text.lines (Utf8.decodeLossy output)) pids ∧ pids ≠ []

/-- The tool ended with the status that says that nothing matched. -/
def NothingMatched (answer : Tool.Answer) : Prop :=
  ∃ output errors, answer = .finished (.exited 1) output errors

end Tool.Answer

namespace Probe

variable {program : Path} {answer : Tool.Answer}

theorem ofAnswer_listed {output errors : Bytes}
    (h : pids (Utf8.decodeLossy output) ≠ []) :
    ofAnswer program (.finished (.exited 0) output errors) =
      .present (pids (Utf8.decodeLossy output)) := by
  simp only [ofAnswer, ofStatus, status?, if_true, if_neg h]

/-- **A display is found exactly if the tool lists its processes**, and then those are found. -/
theorem ofAnswer_eq_present_iff {ns : List UInt32} :
    ofAnswer program answer = .present ns ↔ answer.Lists ns := by
  constructor
  · intro h
    cases answer with
    | unavailable cause => cases h
    | finished ending output errors =>
      cases ending with
      | killed signal => cases h
      | exited status =>
        simp only [ofAnswer, ofStatus, status?] at h
        split at h
        · rename_i hstatus
          split at h
          · cases h
          · rename_i hpids
            cases h
            exact ⟨output, errors, by rw [hstatus], numbers_filterMap _, hpids⟩
        · split at h <;> cases h
  · rintro ⟨output, errors, rfl, hnumbers, hne⟩
    have hpids := pids_eq_iff.mpr hnumbers
    rw [ofAnswer_listed (by rw [hpids]; exact hne), hpids]

/-- **No display is found exactly if the tool says that nothing matched**, whatever it printed. -/
theorem ofAnswer_eq_absent_iff : ofAnswer program answer = .absent ↔ answer.NothingMatched := by
  constructor
  · intro h
    cases answer with
    | unavailable cause => cases h
    | finished ending output errors =>
      cases ending with
      | killed signal => cases h
      | exited status =>
        simp only [ofAnswer, ofStatus, status?] at h
        split at h
        · split at h <;> cases h
        · split at h
          · rename_i hstatus
            exact ⟨output, errors, by rw [hstatus]⟩
          · cases h
  · rintro ⟨output, errors, rfl⟩
    rfl

end Probe

end DisplaySession
