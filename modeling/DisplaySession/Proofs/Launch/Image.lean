import DisplaySession.Launch.Detach
import DisplaySession.Proofs.Text.Numeral
import DisplaySession.Proofs.Text.Utf8

/-
Which children have an image: those whose strings hold no zero, and whose variables have names that
are read back as they were written.

An image is made by two passes that stop at the first string they cannot take. So it is there
exactly if every string passes, and then it holds every string, in order.
-/
set_option autoImplicit false

namespace DisplaySession

/-! ## The variables of an environment -/

theorem mem_setVariable_self (name value : String) (vs : List Variable) :
    (name, value) ∈ setVariable name value vs := by
  induction vs with
  | nil => exact List.mem_cons_self
  | cons v vs ih =>
    rw [setVariable]
    by_cases hbefore : Utf8.Precedes name v.1
    · rw [if_pos hbefore]
      exact List.mem_cons_self
    · rw [if_neg hbefore]
      by_cases hsame : Utf8.ofString name = Utf8.ofString v.1
      · rw [if_pos hsame]
        exact List.mem_cons_self
      · rw [if_neg hsame]
        exact List.mem_cons_of_mem _ ih

namespace Environment

/-- **Setting variables brings in no others.** -/
theorem mem_of_ofList {vs : List Variable} {v : Variable} (h : v ∈ (ofList vs).entries) :
    v ∈ vs := by
  -- What is there already is carried along, so the environment to begin with stays general.
  have hfold (env : Environment) (hv : v ∈ (vs.foldl set env).entries) :
      v ∈ env.entries ∨ v ∈ vs := by
    clear h
    induction vs generalizing env with
    | nil => exact .inl hv
    | cons w vs ih =>
      rw [List.foldl_cons] at hv
      rcases ih (env.set w) hv with hset | hrest
      · rcases mem_setVariable hset with rfl | hold
        · exact .inr List.mem_cons_self
        · exact .inl hold
      · exact .inr (List.mem_cons_of_mem _ hrest)
  rcases hfold empty h with hempty | hvs
  · cases hempty
  · exact hvs

/-- **The variable that was set last is there.** -/
theorem last_mem_ofList (vs : List Variable) (v : Variable) : v ∈ (ofList (vs ++ [v])).entries := by
  rw [ofList, List.foldl_append]
  exact mem_setVariable_self v.1 v.2 _

end Environment

/-! ## Texts without a zero -/

/-- **A text without a zero**: the system takes it whole. -/
def ZeroFree (text : String) : Prop :=
  '\x00' ∉ text.toList

instance (text : String) : Decidable (ZeroFree text) :=
  inferInstanceAs (Decidable (¬_))

/-- The bytes of a text hold a zero if the text does. -/
theorem zeroFree_iff (text : String) : ZeroFree text ↔ 0 ∉ Utf8.ofString text :=
  not_congr (Utf8.mem_encode (b := 0) (by decide) text.toList).symm

/-- **A path is shown without a zero exactly if it has none**, whether its bytes are text or not. -/
theorem zeroFree_shown (path : Path) : ZeroFree path.shown ↔ 0 ∉ path.bytes := by
  rw [ZeroFree, Path.shown, Utf8.shown, String.toList_ofList]
  exact not_congr (Utf8.mem_decodeLossy (b := 0) (by decide) path.bytes)

theorem zeroFree_append {s t : String} : ZeroFree (s ++ t) ↔ ZeroFree s ∧ ZeroFree t := by
  rw [ZeroFree, String.toList_append, List.mem_append, not_or]
  rfl

theorem zeroFree_repr (n : Nat) : ZeroFree n.repr := by
  intro hmem
  have hdigit := Text.isDigit_of_mem_repr hmem
  cases hdigit

/-! ## Images -/

/-- **A variable that the system can be handed.** -/
structure Variable.Launchable (v : Variable) : Prop where
  named : v.1 ≠ ""
  separable : '=' ∉ v.1.toList
  name : ZeroFree v.1
  value : ZeroFree v.2

/-- **A child that the system can be handed.** -/
structure ChildSpec.Launchable (spec : ChildSpec) : Prop where
  present : spec.arguments ≠ []
  arguments : ∀ a ∈ spec.arguments, ZeroFree a
  environment : ∀ v ∈ spec.environment.entries, Variable.Launchable v

namespace Image

def assignment (v : Variable) : Bytes :=
  Utf8.ofString v.1 ++ equalsByte :: Utf8.ofString v.2

theorem zeroFree_of_not_mem {bytes : Bytes} (h : 0 ∉ bytes) (program : String) :
    zeroFree program bytes = .ok bytes := by
  have hnone : bytes.findIdx? (· = 0) = none := by
    rw [List.findIdx?_eq_none_iff]
    intro b hb
    exact decide_eq_false fun hzero => h (hzero ▸ hb)
  rw [zeroFree, hnone]

theorem zeroFree_of_mem {bytes : Bytes} (h : 0 ∈ bytes) (program : String) :
    ∃ position, zeroFree program bytes = .error (.zeroByte program position) := by
  cases hfind : bytes.findIdx? (· = 0) with
  | none =>
    rw [List.findIdx?_eq_none_iff] at hfind
    exact absurd rfl (of_decide_eq_false (hfind 0 h))
  | some position => exact ⟨position, by rw [zeroFree, hfind]⟩

/-- **A text is taken if it holds no zero.** -/
theorem exists_zeroFree_iff {program text : String} :
    (∃ bytes, zeroFree program (Utf8.ofString text) = .ok bytes) ↔ ZeroFree text := by
  rw [zeroFree_iff]
  constructor
  · rintro ⟨bytes, hbytes⟩ hmem
    obtain ⟨position, hposition⟩ := zeroFree_of_mem hmem program
    rw [hposition] at hbytes
    cases hbytes
  · intro h
    exact ⟨_, zeroFree_of_not_mem h program⟩

theorem not_mem_assignment {v : Variable} :
    0 ∉ assignment v ↔ ZeroFree v.1 ∧ ZeroFree v.2 := by
  have hequals : (0 : UInt8) ≠ equalsByte := by decide
  rw [assignment, List.mem_append, List.mem_cons, zeroFree_iff, zeroFree_iff]
  constructor
  · intro h
    exact ⟨fun hname => h (.inl hname), fun hvalue => h (.inr (.inr hvalue))⟩
  · rintro ⟨hname, hvalue⟩ (h | h | h)
    · exact hname h
    · exact hequals h
    · exact hvalue h

theorem ofVariable_of_launchable {v : Variable} (h : Variable.Launchable v) (program : String) :
    ofVariable program v = .ok (assignment v) := by
  rw [ofVariable, if_neg (not_or.mpr ⟨h.named, h.separable⟩)]
  exact zeroFree_of_not_mem (not_mem_assignment.mpr ⟨h.name, h.value⟩) program

theorem launchable_of_ofVariable {program : String} {v : Variable} {bytes : Bytes}
    (h : ofVariable program v = .ok bytes) : Variable.Launchable v := by
  by_cases hname : v.1 = "" ∨ '=' ∈ v.1.toList
  · rw [ofVariable, if_pos hname] at h
    cases h
  · rw [ofVariable, if_neg hname] at h
    rw [not_or] at hname
    have hzero : 0 ∉ assignment v := by
      intro hmem
      obtain ⟨position, hposition⟩ := zeroFree_of_mem hmem program
      rw [← assignment, hposition] at h
      cases h
    obtain ⟨hleft, hright⟩ := not_mem_assignment.mp hzero
    exact ⟨hname.1, hname.2, hleft, hright⟩

section

variable {α β ε : Type} {f : α → Except ε β} {xs : List α}

theorem mapM_of_ok {g : α → β} (h : ∀ x ∈ xs, f x = .ok (g x)) : xs.mapM f = .ok (xs.map g) := by
  induction xs with
  | nil => rfl
  | cons x xs ih =>
    have hrest := ih fun y hy => h y (List.mem_cons_of_mem _ hy)
    rw [List.mapM_cons, h x List.mem_cons_self, hrest]
    rfl

theorem ok_of_mapM {ys : List β} (h : xs.mapM f = .ok ys) : ∀ x ∈ xs, ∃ y, f x = .ok y := by
  induction xs generalizing ys with
  | nil =>
    intro x hx
    cases hx
  | cons x xs ih =>
    rw [List.mapM_cons] at h
    cases hfirst : f x with
    | error e =>
      rw [hfirst] at h
      cases h
    | ok y =>
      cases hrest : xs.mapM f with
      | error e =>
        rw [hfirst, hrest] at h
        cases h
      | ok zs =>
        intro w hw
        rcases List.mem_cons.mp hw with rfl | hw
        · exact ⟨y, hfirst⟩
        · exact ih hrest w hw

end

/-- **A child that can be handed has an image**: every argument and every variable, in order. -/
theorem ofSpec_of_launchable {spec : ChildSpec} (h : spec.Launchable) :
    ofSpec spec =
      .ok ⟨spec.arguments.map Utf8.ofString, spec.environment.entries.map assignment⟩ := by
  have harguments : (spec.arguments.mapM fun a => zeroFree spec.program (Utf8.ofString a)) =
      .ok (spec.arguments.map Utf8.ofString) :=
    mapM_of_ok fun a ha => zeroFree_of_not_mem ((zeroFree_iff a).mp (h.arguments a ha)) _
  have hvariables : spec.environment.entries.mapM (ofVariable spec.program) =
      .ok (spec.environment.entries.map assignment) :=
    mapM_of_ok fun v hv => ofVariable_of_launchable (h.environment v hv) _
  rw [ofSpec]
  split
  · rename_i hnone
    exact absurd hnone h.present
  · rw [harguments, hvariables]
    rfl

/-- **A child with an image can be handed.** -/
theorem launchable_of_ofSpec {spec : ChildSpec} {image : Image} (h : ofSpec spec = .ok image) :
    spec.Launchable := by
  rw [ofSpec] at h
  split at h
  · cases h
  · -- Both passes came to their end, so each string of either one was taken.
    rename_i hpresent
    cases harguments : spec.arguments.mapM fun a => zeroFree spec.program (Utf8.ofString a) with
    | error defect =>
      rw [harguments] at h
      cases h
    | ok arguments =>
      cases hvariables : spec.environment.entries.mapM (ofVariable spec.program) with
      | error defect =>
        rw [harguments, hvariables] at h
        cases h
      | ok assignments =>
        refine ⟨by rw [hpresent]; exact List.cons_ne_nil _ _, ?_, ?_⟩
        · intro a ha
          exact exists_zeroFree_iff.mp (ok_of_mapM harguments a ha)
        · intro v hv
          obtain ⟨bytes, hbytes⟩ := ok_of_mapM hvariables v hv
          exact launchable_of_ofVariable hbytes

end Image

/-- **A launch takes a command exactly if its child can be handed**: then it launches the child's
image, and otherwise it refuses the command for its first defect. -/
theorem detachChild_cases (spec : ChildSpec) :
    (spec.Launchable ∧ ∃ image, Image.ofSpec spec = .ok image ∧
      (detachChild spec).result = .ok image) ∨
    (¬spec.Launchable ∧ ∃ defect, Image.ofSpec spec = .error defect ∧
      (detachChild spec).result = .error (.invalidCommand defect)) := by
  cases himage : Image.ofSpec spec with
  | ok image =>
    refine .inl ⟨Image.launchable_of_ofSpec himage, image, rfl, ?_⟩
    rw [detachChild, himage]
  | error defect =>
    refine .inr ⟨?_, defect, rfl, ?_⟩
    · intro hlaunchable
      rw [Image.ofSpec_of_launchable hlaunchable] at himage
      cases himage
    · rw [detachChild, himage]
      rfl

end DisplaySession
