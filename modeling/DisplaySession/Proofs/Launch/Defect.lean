import DisplaySession.Proofs.Launch.Image
import Mathlib.Data.List.Basic

/-
Images without loss, and the first defect of a child without one.

An image holds the strings of its child one for one. The name of a variable holds no equals sign, so
the first one in its string is the one that ends the name, and the child reads back what was meant,
also if the value holds more of them (`receivedVariables_of_ofSpec`). Two children with one image
are the same child (`ofSpec_injective`).

A child without an image has a first defect: what comes before it is sound, and the position of a
zero is that of the first one in its string (`ofSpec_error_iff`). A launch reports it and makes no
process.
-/
set_option autoImplicit false

namespace DisplaySession

/-! ## First defects -/

/-- **The first zero** of some bytes, by its position. -/
structure FirstZero (bytes : Bytes) (position : Nat) : Prop where
  zero : bytes[position]? = some 0
  first : 0 ∉ bytes.take position

/-- **A name that no variable can have.** -/
def BadName (name : String) : Prop :=
  name = "" ∨ '=' ∈ name.toList

/-- **The first defect of a child**: in its arguments from left to right, and then in its variables
in the order of their names, of which each is asked for its name first. -/
inductive ChildSpec.FirstDefect (spec : ChildSpec) : CommandDefect → Prop
  /-- There is no program. -/
  | noArguments (hnone : spec.arguments = []) : FirstDefect spec .noArguments
  /-- An argument holds a zero. -/
  | argument (before : List String) (argument : String) (after : List String) (position : Nat)
      (hsplit : spec.arguments = before ++ argument :: after)
      (hbefore : ∀ a ∈ before, ZeroFree a)
      (hzero : FirstZero (Utf8.ofString argument) position) :
      FirstDefect spec (.zeroByte spec.program position)
  /-- A variable has a name that none can have. -/
  | name (before : List Variable) (v : Variable) (after : List Variable)
      (hpresent : spec.arguments ≠ []) (harguments : ∀ a ∈ spec.arguments, ZeroFree a)
      (hsplit : spec.environment.entries = before ++ v :: after)
      (hbefore : ∀ w ∈ before, Variable.Launchable w) (hname : BadName v.1) :
      FirstDefect spec (.badVariableName v.1)
  /-- The string of a variable holds a zero. -/
  | assignment (before : List Variable) (v : Variable) (after : List Variable) (position : Nat)
      (hpresent : spec.arguments ≠ []) (harguments : ∀ a ∈ spec.arguments, ZeroFree a)
      (hsplit : spec.environment.entries = before ++ v :: after)
      (hbefore : ∀ w ∈ before, Variable.Launchable w) (hname : ¬BadName v.1)
      (hzero : FirstZero (Image.assignment v) position) :
      FirstDefect spec (.zeroByte spec.program position)

namespace Image

variable {spec other : ChildSpec} {image : Image} {defect : CommandDefect} {program : String}
  {bytes : Bytes} {v : Variable}

/-! ## Single strings -/

theorem firstZero_iff (bytes : Bytes) (position : Nat) :
    FirstZero bytes position ↔ bytes.findIdx? (· = 0) = some position := by
  rw [List.findIdx?_eq_some_iff_getElem]
  constructor
  · intro h
    obtain ⟨hlength, hzero⟩ := List.getElem?_eq_some_iff.mp h.zero
    refine ⟨hlength, by simp [hzero], fun earlier hearlier => ?_⟩
    have hmem : bytes[earlier] ∈ bytes.take position :=
      List.mem_take_iff_getElem.mpr ⟨earlier, by omega, rfl⟩
    simp only [decide_eq_true_eq]
    intro h0
    exact h.first (h0 ▸ hmem)
  · rintro ⟨hlength, hzero, hearlier⟩
    refine ⟨List.getElem?_eq_some_iff.mpr ⟨hlength, by simpa using hzero⟩, fun hmem => ?_⟩
    obtain ⟨earlier, hlt, h0⟩ := List.mem_take_iff_getElem.mp hmem
    exact hearlier earlier (by omega) (by simpa using h0)

/-- **A string is refused for its first zero.** -/
theorem zeroFree_error_iff :
    zeroFree program bytes = .error defect ↔
      ∃ position, FirstZero bytes position ∧ defect = .zeroByte program position := by
  simp only [firstZero_iff]
  rw [zeroFree]
  cases bytes.findIdx? (· = 0) with
  | none => simp
  | some position => simp [eq_comm]

theorem ofVariable_of_badName (h : BadName v.1) :
    ofVariable program v = .error (.badVariableName v.1) :=
  if_pos h

theorem ofVariable_of_not_badName (h : ¬BadName v.1) :
    ofVariable program v = zeroFree program (assignment v) :=
  if_neg h

/-- **A variable is refused for its name**, and if that is sound for the first zero of its string.
-/
theorem ofVariable_error_iff :
    ofVariable program v = .error defect ↔
      BadName v.1 ∧ defect = .badVariableName v.1 ∨
      ¬BadName v.1 ∧ ∃ position, FirstZero (assignment v) position ∧
        defect = .zeroByte program position := by
  by_cases hname : BadName v.1
  · rw [ofVariable_of_badName hname]
    simp [hname, eq_comm]
  · rw [ofVariable_of_not_badName hname, zeroFree_error_iff]
    simp [hname]

/-- **A variable is taken if it can be launched.** -/
theorem exists_ofVariable_iff (v : Variable) :
    (∃ bytes, ofVariable program v = .ok bytes) ↔ Variable.Launchable v := by
  constructor
  · rintro ⟨bytes, hbytes⟩
    exact launchable_of_ofVariable hbytes
  · intro h
    exact ⟨_, ofVariable_of_launchable h program⟩

/-! ## Passes over strings -/

section

variable {α β ε : Type} {f : α → Except ε β} {xs : List α}

theorem mapM_cons_error_iff (x : α) (e : ε) :
    (x :: xs).mapM f = .error e ↔
      f x = .error e ∨ (∃ y, f x = .ok y) ∧ xs.mapM f = .error e := by
  rw [List.mapM_cons]
  cases f x with
  | error e' => simp [bind, Except.bind]
  | ok y => cases xs.mapM f <;> simp [bind, Except.bind, pure, Except.pure]

/-- **A pass stops at the first string that is refused**, and all before it were taken. -/
theorem mapM_error_iff (e : ε) :
    xs.mapM f = .error e ↔ ∃ before x after, xs = before ++ x :: after ∧
      (∀ w ∈ before, ∃ y, f w = .ok y) ∧ f x = .error e := by
  constructor
  · intro h
    induction xs with
    | nil => cases h
    | cons x xs ih =>
      rcases (mapM_cons_error_iff x e).mp h with hrefused | ⟨htaken, hrest⟩
      · exact ⟨[], x, xs, rfl, by simp, hrefused⟩
      · obtain ⟨before, w, after, rfl, hbefore, hrefused⟩ := ih hrest
        exact ⟨x :: before, w, after, rfl, List.forall_mem_cons.mpr ⟨htaken, hbefore⟩, hrefused⟩
  · rintro ⟨before, w, after, rfl, hbefore, hrefused⟩
    induction before with
    | nil => exact (mapM_cons_error_iff w e).mpr (.inl hrefused)
    | cons b before ih =>
      obtain ⟨htaken, hrest⟩ := List.forall_mem_cons.mp hbefore
      exact (mapM_cons_error_iff b e).mpr (.inr ⟨htaken, ih hrest⟩)

end

/-! ## Whole children -/

/-- The strings of the arguments, or the first one that is refused. -/
theorem arguments_error_iff (arguments : List String) :
    (arguments.mapM fun a => zeroFree program (Utf8.ofString a)) = .error defect ↔
      ∃ before a after position, arguments = before ++ a :: after ∧
        (∀ b ∈ before, ZeroFree b) ∧ FirstZero (Utf8.ofString a) position ∧
        defect = .zeroByte program position := by
  simp only [mapM_error_iff, exists_zeroFree_iff, zeroFree_error_iff]
  constructor
  · rintro ⟨before, a, after, hsplit, hbefore, position, hzero, rfl⟩
    exact ⟨before, a, after, position, hsplit, hbefore, hzero, rfl⟩
  · rintro ⟨before, a, after, position, hsplit, hbefore, hzero, rfl⟩
    exact ⟨before, a, after, hsplit, hbefore, position, hzero, rfl⟩

/-- The strings of the arguments are there if each of them is taken. -/
theorem exists_arguments_iff (arguments : List String) :
    (∃ strings, (arguments.mapM fun a => zeroFree program (Utf8.ofString a)) = .ok strings) ↔
      ∀ a ∈ arguments, ZeroFree a := by
  constructor
  · rintro ⟨strings, hstrings⟩ a ha
    exact exists_zeroFree_iff.mp (ok_of_mapM hstrings a ha)
  · intro h
    exact ⟨_, mapM_of_ok fun a ha => zeroFree_of_not_mem ((zeroFree_iff a).mp (h a ha)) program⟩

theorem ofSpec_error_cases :
    ofSpec spec = .error defect ↔
      spec.arguments = [] ∧ defect = .noArguments ∨
      spec.arguments ≠ [] ∧
        ((spec.arguments.mapM fun a => zeroFree spec.program (Utf8.ofString a)) = .error defect ∨
          (∀ a ∈ spec.arguments, ZeroFree a) ∧
            spec.environment.entries.mapM (ofVariable spec.program) = .error defect) := by
  rw [ofSpec, ← @exists_arguments_iff spec.program]
  split
  · rename_i hnone
    simp [hnone, eq_comm]
  · rename_i hpresent
    have hpresent' : spec.arguments ≠ [] := by
      rw [hpresent]
      exact List.cons_ne_nil _ _
    simp only [hpresent', false_and, false_or, ne_eq, not_false_eq_true, true_and]
    cases spec.arguments.mapM fun a => zeroFree spec.program (Utf8.ofString a) with
    | error defect' => simp [bind, Except.bind]
    | ok strings =>
      cases spec.environment.entries.mapM (ofVariable spec.program) <;>
        simp [bind, Except.bind, pure, Except.pure]

/-- **A child without an image is refused for its first defect.** -/
theorem ofSpec_error_iff : ofSpec spec = .error defect ↔ spec.FirstDefect defect := by
  rw [ofSpec_error_cases, arguments_error_iff, mapM_error_iff]
  simp only [exists_ofVariable_iff, ofVariable_error_iff]
  constructor
  · rintro (⟨hnone, rfl⟩ | ⟨hpresent, harguments | ⟨harguments, hvariables⟩⟩)
    · exact .noArguments hnone
    · obtain ⟨before, a, after, position, hsplit, hbefore, hzero, rfl⟩ := harguments
      exact .argument before a after position hsplit hbefore hzero
    · obtain ⟨before, v, after, hsplit, hbefore, hrefused⟩ := hvariables
      rcases hrefused with ⟨hname, rfl⟩ | ⟨hname, position, hzero, rfl⟩
      · exact .name before v after hpresent harguments hsplit hbefore hname
      · exact .assignment before v after position hpresent harguments hsplit hbefore hname hzero
  · intro h
    cases h with
    | noArguments hnone => exact .inl ⟨hnone, rfl⟩
    | argument before a after position hsplit hbefore hzero =>
      refine .inr ⟨?_, .inl ⟨before, a, after, position, hsplit, hbefore, hzero, rfl⟩⟩
      rw [hsplit]
      exact List.append_ne_nil_of_right_ne_nil _ (List.cons_ne_nil _ _)
    | name before v after hpresent harguments hsplit hbefore hname =>
      exact .inr ⟨hpresent, .inr ⟨harguments, before, v, after, hsplit, hbefore,
        .inl ⟨hname, rfl⟩⟩⟩
    | assignment before v after position hpresent harguments hsplit hbefore hname hzero =>
      exact .inr ⟨hpresent, .inr ⟨harguments, before, v, after, hsplit, hbefore,
        .inr ⟨hname, position, hzero, rfl⟩⟩⟩

/-- **A child has an image exactly if it can be launched.** -/
theorem exists_ofSpec_iff (spec : ChildSpec) :
    (∃ image, ofSpec spec = .ok image) ↔ spec.Launchable := by
  constructor
  · rintro ⟨image, himage⟩
    exact launchable_of_ofSpec himage
  · intro h
    exact ⟨_, ofSpec_of_launchable h⟩

theorem ofSpec_eq_ok (h : ofSpec spec = .ok image) :
    image = ⟨spec.arguments.map Utf8.ofString, spec.environment.entries.map assignment⟩ := by
  rw [ofSpec_of_launchable (launchable_of_ofSpec h)] at h
  exact (Except.ok.inj h).symm

/-! ## What a child reads back -/

/-- The bytes of a name and a value. -/
def bytesOf (v : Variable) : Bytes × Bytes :=
  (Utf8.ofString v.1, Utf8.ofString v.2)

theorem bytesOf_injective : Function.Injective bytesOf := by
  intro v w h
  obtain ⟨hname, hvalue⟩ := Prod.mk.inj h
  exact Prod.ext (Utf8.ofString_injective hname) (Utf8.ofString_injective hvalue)

/-- **A name without an equals sign is read back as it was written**, and so is the value behind it,
whatever it holds. -/
theorem nameAndValue_assignment (h : '=' ∉ v.1.toList) :
    nameAndValue (assignment v) = bytesOf v := by
  have hname : equalsByte ∉ Utf8.ofString v.1 := by
    intro hmem
    exact h ((Utf8.mem_encode (b := equalsByte) (by decide) v.1.toList).mp hmem)
  have hall : ∀ b ∈ Utf8.ofString v.1, decide (b ≠ equalsByte) = true := by
    intro b hb
    exact decide_eq_true fun heq => hname (heq ▸ hb)
  rw [nameAndValue, assignment, List.takeWhile_append_of_pos hall,
    List.dropWhile_append_of_pos hall]
  simp [bytesOf]

/-- **The variables that a child finds are those it was meant to find**, in their order. -/
theorem receivedVariables_of_ofSpec (h : ofSpec spec = .ok image) :
    image.receivedVariables = spec.environment.entries.map bytesOf := by
  have hlaunchable := launchable_of_ofSpec h
  rw [ofSpec_eq_ok h, receivedVariables, List.map_map]
  refine List.map_congr_left fun v hv => ?_
  exact nameAndValue_assignment (hlaunchable.environment v hv).separable

/-- **Children with one image are one child.** -/
theorem ofSpec_injective (h : ofSpec spec = .ok image) (h' : ofSpec other = .ok image) :
    other = spec := by
  have harguments : other.arguments.map Utf8.ofString = spec.arguments.map Utf8.ofString := by
    exact congrArg Image.arguments ((ofSpec_eq_ok h').symm.trans (ofSpec_eq_ok h))
  have hvariables : other.environment.entries.map bytesOf =
      spec.environment.entries.map bytesOf := by
    rw [← receivedVariables_of_ofSpec h, receivedVariables_of_ofSpec h']
  obtain ⟨arguments, ⟨entries, hentries⟩⟩ := spec
  obtain ⟨arguments', ⟨entries', hentries'⟩⟩ := other
  obtain rfl : arguments' = arguments := Utf8.ofString_injective.list_map harguments
  obtain rfl : entries' = entries := bytesOf_injective.list_map hvariables
  rfl

/-- **An image holds its child**: all of its strings in their order, and nothing else. -/
structure Encodes (image : Image) (spec : ChildSpec) : Prop where
  path : image.path = Utf8.ofString spec.program
  arguments : image.arguments = spec.arguments.map Utf8.ofString
  /-- One string for each variable: its name, an equals sign and its value. -/
  assignments : image.assignments = spec.environment.entries.map assignment
  /-- What stands before the first equals sign of each string, and behind it. -/
  received : image.receivedVariables =
    spec.environment.entries.map fun v => (Utf8.ofString v.1, Utf8.ofString v.2)
  /-- The names strictly increase by their bytes. -/
  increasing : (image.receivedVariables.map Prod.fst).Pairwise (· < ·)
  /-- No other child has this image. -/
  faithful : ∀ other, ofSpec other = .ok image → other = spec

theorem encodes_of_ofSpec (h : ofSpec spec = .ok image) : image.Encodes spec := by
  have hreceived := receivedVariables_of_ofSpec h
  have himage := ofSpec_eq_ok h
  refine ⟨?_, by rw [himage], by rw [himage], hreceived, ?_, fun other => ofSpec_injective h⟩
  · -- The program of a child is its first argument, and a launchable one has an argument.
    obtain ⟨program, rest, harguments⟩ :=
      List.exists_cons_of_ne_nil (launchable_of_ofSpec h).present
    rw [himage, Image.path, ChildSpec.program, harguments]
    rfl
  · rw [hreceived, List.map_map, List.pairwise_map]
    exact spec.environment.increasing

/-- **A child is handed over without loss or refused for its first defect**, and a child that is
refused is refused before any process is made. -/
theorem lossless_or_firstDefect (spec : ChildSpec) :
    ((∃ image, ofSpec spec = .ok image) ↔ spec.Launchable) ∧
    (∀ image, ofSpec spec = .ok image → image.Encodes spec) ∧
    (∀ defect, ofSpec spec = .error defect ↔ spec.FirstDefect defect) ∧
    (¬spec.Launchable → ∃ defect, spec.FirstDefect defect ∧
      ∀ {σ : Type} (processes : Processes σ) (s : σ),
        launch processes spec s = ((.error (.invalidCommand defect), []), s)) := by
  refine ⟨exists_ofSpec_iff spec, fun _ => encodes_of_ofSpec, fun _ => ofSpec_error_iff, ?_⟩
  intro hnot
  cases himage : ofSpec spec with
  | ok image => exact absurd (launchable_of_ofSpec himage) hnot
  | error defect =>
    refine ⟨defect, ofSpec_error_iff.mp himage, fun processes s => ?_⟩
    rw [launch, himage]

end Image

end DisplaySession
