import DisplaySession.Account.Database
import DisplaySession.Proofs.Lookup
import Mathlib.Data.List.Basic

/-
Which identity a name is resolved to.

A resolution can end in five ways (`Resolution`), and only one of them gives an identity. That
identity is known without the way it was found (`Identity.Describes`): its groups are a set, the
primary group and the groups that list the name, and an order, that of the first group in the
database with each id. A set in a strict order is one list, so no two identities are described by
the same records (`describes_unique`).
-/
set_option autoImplicit false

namespace DisplaySession

namespace Account

/-! ## The order of first occurrences -/

section

variable {α : Type} [DecidableEq α]

theorem mem_firstOccurrences {as : List α} {a : α} : a ∈ firstOccurrences as ↔ a ∈ as := by
  induction as with
  | nil => rfl
  | cons b as ih =>
    rw [firstOccurrences, List.mem_cons, List.mem_cons, List.mem_filter, ih, decide_eq_true_eq]
    by_cases hab : a = b
    · simp only [hab, true_or]
    · simp only [hab, false_or, ne_eq, not_false_eq_true, and_true]

/-- **What occurs first stays first.** -/
theorem pairwise_firstOccurrences (as : List α) :
    (firstOccurrences as).Pairwise fun a b => as.idxOf a < as.idxOf b := by
  induction as with
  | nil => exact List.Pairwise.nil
  | cons c as ih =>
    have hother {a : α} (ha : a ∈ (firstOccurrences as).filter (· ≠ c)) : c ≠ a := by
      have hne := (List.mem_filter.mp ha).2
      exact Ne.symm (of_decide_eq_true hne)
    rw [firstOccurrences, List.pairwise_cons]
    constructor
    · intro b hb
      rw [List.idxOf_cons_eq as rfl, List.idxOf_cons_ne as (hother hb)]
      exact Nat.succ_pos _
    · refine (ih.filter _).imp_of_mem fun ha hb hab => ?_
      rw [List.idxOf_cons_ne as (hother ha), List.idxOf_cons_ne as (hother hb)]
      exact Nat.succ_lt_succ hab

/-- What occurs only at the end stays at the end. -/
theorem firstOccurrences_concat {as : List α} {a : α} (h : a ∉ as) :
    firstOccurrences (as ++ [a]) = firstOccurrences as ++ [a] := by
  induction as with
  | nil => rfl
  | cons b as ih =>
    rw [List.mem_cons, not_or] at h
    have hkeep : [a].filter (· ≠ b) = [a] := by
      rw [List.filter_singleton, decide_eq_true h.1]
      rfl
    rw [List.cons_append, firstOccurrences, ih h.2, firstOccurrences, List.filter_append, hkeep,
      List.cons_append]

end

/-! ## The groups that list a name -/

/-- A group lists a name and has an id. -/
def Lists (name : String) (gid : UInt32) (group : GroupRecord) : Prop :=
  name ∈ group.members ∧ group.gid = gid

instance (name : String) (gid : UInt32) (group : GroupRecord) : Decidable (Lists name gid group) :=
  inferInstanceAs (Decidable (_ ∧ _))

/-- **The place of an id**: how many groups stand before the first one that lists the name and has
the id. If there is none, the place is behind all groups. -/
def place (name : String) (groups : List GroupRecord) (gid : UInt32) : Nat :=
  groups.findIdx fun group => Lists name gid group

section

variable {name : String} {group : GroupRecord} {groups : List GroupRecord} {gid : UInt32}

theorem mem_memberships : gid ∈ memberships name groups ↔ ∃ g ∈ groups, Lists name gid g := by
  simp only [memberships, List.mem_map, List.mem_filter, decide_eq_true_eq, and_assoc, Lists]

theorem memberships_of_listed (h : name ∈ group.members) :
    memberships name (group :: groups) = group.gid :: memberships name groups := by
  simp only [memberships, List.filter_cons, h, decide_true, if_true, List.map_cons]

theorem memberships_of_not_listed (h : name ∉ group.members) :
    memberships name (group :: groups) = memberships name groups := by
  simp only [memberships, List.filter_cons, h, decide_false, Bool.false_eq_true, if_false]

theorem place_of_lists (h : Lists name gid group) : place name (group :: groups) gid = 0 := by
  simp only [place, List.findIdx_cons, h, decide_true, cond_true]

theorem place_of_not_lists (h : ¬Lists name gid group) :
    place name (group :: groups) gid = place name groups gid + 1 := by
  simp only [place, List.findIdx_cons, h, decide_false, cond_false]

end

/-- **Ids that occur one after the other have places one after the other.** The id at the end may be
listed or not. -/
theorem place_lt_of_idxOf_lt {name : String} {groups : List GroupRecord} {last a b : UInt32}
    (hb : b ∈ memberships name groups ++ [last])
    (h : (memberships name groups ++ [last]).idxOf a <
      (memberships name groups ++ [last]).idxOf b) :
    place name groups a < place name groups b := by
  induction groups with
  | nil =>
    -- Only the id at the end is there, and nothing stands before it.
    rw [show memberships name [] ++ [last] = [last] from rfl] at h hb
    rw [List.idxOf_cons_eq [] (List.mem_singleton.mp hb).symm] at h
    exact absurd h (Nat.not_lt_zero _)
  | cons group groups ih =>
    by_cases hlisted : name ∈ group.members
    · rw [memberships_of_listed hlisted, List.cons_append] at h hb
      have hgb : group.gid ≠ b := by
        intro heq
        rw [List.idxOf_cons_eq _ heq] at h
        exact absurd h (Nat.not_lt_zero _)
      rw [place_of_not_lists fun hlists => hgb hlists.2]
      by_cases hga : group.gid = a
      · rw [place_of_lists ⟨hlisted, hga⟩]
        exact Nat.succ_pos _
      · rw [List.idxOf_cons_ne _ hga, List.idxOf_cons_ne _ hgb] at h
        rw [place_of_not_lists fun hlists => hga hlists.2]
        have hrest := (List.mem_cons.mp hb).resolve_left (Ne.symm hgb)
        exact Nat.succ_lt_succ (ih hrest (Nat.lt_of_succ_lt_succ h))
    · rw [memberships_of_not_listed hlisted] at h hb
      rw [place_of_not_lists fun hlists => hlisted hlists.1,
        place_of_not_lists fun hlists => hlisted hlists.1]
      exact Nat.succ_lt_succ (ih hb h)

end Account

/-! ## The identity that records describe -/

namespace Identity

open Account

/-- **An identity is the one that a user's record and the groups describe.** -/
structure Describes (identity : Identity) (name : String) (record : UserRecord)
    (groups : List GroupRecord) : Prop where
  username : identity.username = name
  uid : identity.uid = record.uid
  gid : identity.gid = record.gid
  home : identity.home = record.home
  /-- No group is named twice. -/
  distinct : identity.groups.Nodup
  /-- The groups are the primary one and those that list the name. -/
  members (gid : UInt32) :
    gid ∈ identity.groups ↔ gid = record.gid ∨ ∃ group ∈ groups, Lists name gid group
  /-- They stand in the order in which the database first has them. -/
  ordered : identity.groups.Pairwise fun a b => place name groups a < place name groups b
  /-- A primary group that does not list the name stands last. -/
  primaryLast : (¬∃ group ∈ groups, Lists name record.gid group) →
    identity.groups.getLast? = some record.gid

theorem describes_identityOf (record : UserRecord) (groups : List GroupRecord) :
    (identityOf record groups).Describes record.name record groups := by
  have hordered : (identityOf record groups).groups.Pairwise fun a b =>
      place record.name groups a < place record.name groups b := by
    refine (pairwise_firstOccurrences _).imp_of_mem fun _ hb hab => ?_
    exact place_lt_of_idxOf_lt (mem_firstOccurrences.mp hb) hab
  refine ⟨rfl, rfl, rfl, rfl, ?_, ?_, hordered, ?_⟩
  · refine hordered.imp fun hab => ?_
    rintro rfl
    exact Nat.lt_irrefl _ hab
  · intro gid
    rw [identityOf, mem_firstOccurrences, List.mem_append, List.mem_singleton, mem_memberships]
    exact Or.comm
  · intro hnone
    rw [← mem_memberships] at hnone
    rw [identityOf, firstOccurrences_concat hnone, List.getLast?_concat]

/-- **Records describe one identity.** The groups of two that they describe are the same set in the
same strict order. -/
theorem describes_unique {first second : Identity} {name : String} {record : UserRecord}
    {groups : List GroupRecord} (hfirst : first.Describes name record groups)
    (hsecond : second.Describes name record groups) : first = second := by
  have hperm : first.groups.Perm second.groups := by
    rw [List.perm_ext_iff_of_nodup hfirst.distinct hsecond.distinct]
    intro gid
    rw [hfirst.members, hsecond.members]
  have hgroups : first.groups = second.groups := by
    refine hperm.eq_of_pairwise ?_ hfirst.ordered hsecond.ordered
    intro a b _ _ hab hba
    exact absurd hab (Nat.lt_asymm hba)
  obtain ⟨username, uid, gid, home, list⟩ := first
  obtain ⟨username', uid', gid', home', list'⟩ := second
  obtain rfl : username = username' := hfirst.username.trans hsecond.username.symm
  obtain rfl : uid = uid' := hfirst.uid.trans hsecond.uid.symm
  obtain rfl : gid = gid' := hfirst.gid.trans hsecond.gid.symm
  obtain rfl : home = home' := hfirst.home.trans hsecond.home.symm
  obtain rfl : list = list' := hgroups
  rfl

end Identity

/-! ## How a resolution ends -/

namespace Account

theorem checkUsername_cases (name : String) :
    checkUsername name = .ok () ∨ checkUsername name = .error (.invalidUsername name) := by
  rw [checkUsername]
  by_cases h : isUsername name = true
  · rw [if_pos h]
    exact .inl rfl
  · rw [if_neg h]
    exact .inr rfl

/-- What is left of a resolution when the user was asked for. -/
def identified (users : Database) (name : String) (found : Option UserRecord) : Lookup Identity :=
  match found.filter (·.name = name) with
  | none => Lookup.fail (.userNotFound name)
  | some record => do
    let groups ← users.groups
    return identityOf record groups

section

variable {users : Database} {name : String}

theorem resolve_of_refused (h : checkUsername name = .error (.invalidUsername name)) :
    resolve users name = Lookup.fail (.invalidUsername name) := by
  rw [resolve, h]

theorem resolve_of_accepted (h : checkUsername name = .ok ()) :
    resolve users name = users.user name >>= identified users name := by
  rw [resolve, h]
  rfl

theorem identified_of_other {found : Option UserRecord} (h : ∀ r ∈ found, r.name ≠ name) :
    identified users name found = Lookup.fail (.userNotFound name) := by
  have hnone : found.filter (·.name = name) = none := by
    rw [Option.filter_eq_none_iff]
    intro r hr
    rw [decide_eq_true_eq]
    exact h r hr
  rw [identified, hnone]

theorem identified_of_name {record : UserRecord} (h : record.name = name) :
    identified users name (some record) =
      users.groups >>= fun groups => Lookup.answer (identityOf record groups) := by
  have hsome : (some record).filter (·.name = name) = some record := by
    simp only [Option.filter_some, h, decide_true, if_true]
  rw [identified, hsome]
  rfl

end

/-- **How the resolution of a name ends**, and what was noted until then. -/
inductive Resolution (users : Database) (name : String) : Lookup Identity → Prop
  /-- The name is none, and nothing was asked. -/
  | refused (h : checkUsername name = .error (.invalidUsername name)) :
    Resolution users name (Lookup.fail (.invalidUsername name))
  /-- The question for the user failed. -/
  | userFailed {failure : Failure} (h : checkUsername name = .ok ())
    (huser : (users.user name).result = .error failure) :
    Resolution users name ⟨.error failure, (users.user name).notes⟩
  /-- There is no record, or another account's. -/
  | missing {found : Option UserRecord} (h : checkUsername name = .ok ())
    (huser : (users.user name).result = .ok found) (hother : ∀ r ∈ found, r.name ≠ name) :
    Resolution users name ⟨.error (.userNotFound name), (users.user name).notes⟩
  /-- The question for the groups failed. -/
  | groupsFailed {record : UserRecord} {failure : Failure} (h : checkUsername name = .ok ())
    (huser : (users.user name).result = .ok (some record)) (hname : record.name = name)
    (hgroups : users.groups.result = .error failure) :
    Resolution users name ⟨.error failure, (users.user name).notes ++ users.groups.notes⟩
  /-- Both questions were answered. -/
  | found {record : UserRecord} {groups : List GroupRecord} (h : checkUsername name = .ok ())
    (huser : (users.user name).result = .ok (some record)) (hname : record.name = name)
    (hgroups : users.groups.result = .ok groups) :
    Resolution users name
      ⟨.ok (identityOf record groups), (users.user name).notes ++ users.groups.notes⟩

/-- **Every resolution ends in one of these ways.** -/
theorem resolution (users : Database) (name : String) :
    Resolution users name (resolve users name) := by
  rcases checkUsername_cases name with h | h
  · rw [resolve_of_accepted h]
    cases huser : (users.user name).result with
    | error failure =>
      rw [Lookup.bind_of_error _ huser]
      exact .userFailed h huser
    | ok found =>
      rw [Lookup.bind_of_ok _ huser]
      by_cases hother : ∀ r ∈ found, r.name ≠ name
      · rw [identified_of_other hother]
        simp only [Lookup.fail, List.append_nil]
        exact .missing h huser hother
      · simp only [not_forall, not_not] at hother
        obtain ⟨record, rfl, hname⟩ := hother
        rw [identified_of_name hname]
        cases hgroups : users.groups.result with
        | error failure =>
          rw [Lookup.bind_of_error _ hgroups]
          exact .groupsFailed h huser hname hgroups
        | ok groups =>
          rw [Lookup.bind_of_ok _ hgroups]
          simp only [Lookup.answer, List.append_nil]
          exact .found h huser hname hgroups
  · rw [resolve_of_refused h]
    exact .refused h

/-! ## The identity of a name -/

section

variable {users : Database} {name : String}

theorem resolve_of_found {record : UserRecord} {groups : List GroupRecord}
    (h : checkUsername name = .ok ()) (huser : (users.user name).result = .ok (some record))
    (hname : record.name = name) (hgroups : users.groups.result = .ok groups) :
    (resolve users name).result = .ok (identityOf record groups) := by
  rw [resolve_of_accepted h, Lookup.bind_of_ok _ huser, identified_of_name hname,
    Lookup.bind_of_ok _ hgroups]
  rfl

theorem found_of_resolve {identity : Identity} (h : (resolve users name).result = .ok identity) :
    checkUsername name = .ok () ∧ ∃ record groups,
      (users.user name).result = .ok (some record) ∧ record.name = name ∧
        users.groups.result = .ok groups ∧ identity = identityOf record groups := by
  have hends := resolution users name
  generalize resolve users name = lookup at hends h
  cases hends with
  | found hcheck huser hname hgroups =>
    exact ⟨hcheck, _, _, huser, hname, hgroups, (Except.ok.inj h).symm⟩
  | _ => cases h

end

/-- **A name is resolved to exactly the identity that its records describe.** There is one exactly
if the name can be one, the database has a record under it and the groups can be listed. A record of
another account is no user of this name. -/
theorem resolve_exact (users : Database) (name : String) :
    (∀ identity, (resolve users name).result = .ok identity ↔
      checkUsername name = .ok () ∧ ∃ record groups,
        (users.user name).result = .ok (some record) ∧ record.name = name ∧
          users.groups.result = .ok groups ∧ identity.Describes name record groups) ∧
    ((∃ identity, (resolve users name).result = .ok identity) ↔
      checkUsername name = .ok () ∧
        (∃ record, (users.user name).result = .ok (some record) ∧ record.name = name) ∧
        ∃ groups, users.groups.result = .ok groups) ∧
    ∀ record, checkUsername name = .ok () → (users.user name).result = .ok (some record) →
      record.name ≠ name → (resolve users name).result = .error (.userNotFound name) := by
  refine ⟨fun identity => ⟨?_, ?_⟩, ⟨?_, ?_⟩, ?_⟩
  · intro h
    obtain ⟨hcheck, record, groups, huser, rfl, hgroups, rfl⟩ := found_of_resolve h
    exact ⟨hcheck, record, groups, huser, rfl, hgroups, Identity.describes_identityOf record groups⟩
  · rintro ⟨hcheck, record, groups, huser, rfl, hgroups, hdescribes⟩
    rw [resolve_of_found hcheck huser rfl hgroups]
    have hidentity := Identity.describes_identityOf record groups
    rw [Identity.describes_unique hdescribes hidentity]
  · rintro ⟨identity, h⟩
    obtain ⟨hcheck, record, groups, huser, hname, hgroups, -⟩ := found_of_resolve h
    exact ⟨hcheck, ⟨record, huser, hname⟩, groups, hgroups⟩
  · rintro ⟨hcheck, ⟨record, huser, hname⟩, groups, hgroups⟩
    exact ⟨_, resolve_of_found hcheck huser hname hgroups⟩
  · intro record hcheck huser hother
    rw [resolve_of_accepted hcheck, Lookup.bind_of_ok _ huser, identified_of_other]
    · rfl
    · rintro r hr
      cases hr
      exact hother

end Account

end DisplaySession
