import Gumd.FileRules
import Gumd.System

/-!
# The list of users

The list is made with a set of flags, one for each requested type.  An entry counts for the type its
gecos names, or for the system type by its uid; the users it is asked for are those whose type, by
gecos or by uid, is requested.
-/

namespace Gumd

open StateWp

/-! ## Sets of flags -/

theorem and_or_left (x a b : UInt32) : x &&& (a ||| b) = (x &&& a) ||| (x &&& b) := by
  apply UInt32.toBitVec_inj.mp
  simp only [UInt32.toBitVec_and, UInt32.toBitVec_or]
  exact BitVec.and_or_distrib_left

/-- What holds of a joined set of flags if it holds of one of those joined. -/
theorem foldl_or_iff {α : Type} {P : UInt32 → Prop} (joins : ∀ a b, P (a ||| b) ↔ P a ∨ P b)
    (flags : α → UInt32) (l : List α) (start : UInt32) :
    P (l.foldl (fun res a => res ||| flags a) start) ↔ P start ∨ ∃ a ∈ l, P (flags a) := by
  induction l generalizing start with
  | nil => simp
  | cons a rest ih =>
    rw [List.foldl_cons, ih, joins, or_assoc]
    simp only [List.mem_cons, exists_eq_or_imp]

theorem or_ne_zero_iff (a b : UInt32) : a ||| b ≠ 0 ↔ a ≠ 0 ∨ b ≠ 0 := by
  rw [Ne, UInt32.or_eq_zero_iff, not_and_or]

theorem and_or_ne_zero_iff (x a b : UInt32) : x &&& (a ||| b) ≠ 0 ↔ x &&& a ≠ 0 ∨ x &&& b ≠ 0 := by
  rw [and_or_left, or_ne_zero_iff]

theorem GumUserType.value_ne_zero_iff {type : GumUserType} : type.value ≠ 0 ↔ type ≠ .none := by
  cases type <;> decide

/-- The flags of two types meet if the types are the same. -/
theorem GumUserType.value_and_value_ne_zero_iff {type other : GumUserType} :
    type.value &&& other.value ≠ 0 ↔ type ≠ .none ∧ other = type := by
  cases type <;> cases other <;> decide

/-- A type meets the set of flags of a list if one of the names is its own. -/
theorem value_and_gumUserTypeFromStrv_ne_zero_iff {type : GumUserType} {types : Option (List Str)} :
    type.value &&& gumUserTypeFromStrv types ≠ 0 ↔
      type ≠ .none ∧ ∃ name ∈ types.getD [], gumUserTypeFromString (some name) = type := by
  refine (foldl_or_iff (P := (type.value &&& · ≠ 0)) (and_or_ne_zero_iff _) _ _ _).trans ?_
  simp only [UInt32.and_zero, ne_eq, not_true_eq_false, false_or]
  simp only [← ne_eq, GumUserType.value_and_value_ne_zero_iff]
  constructor
  · intro met
    obtain ⟨name, mem, typed, named⟩ := met
    exact ⟨typed, name, mem, named⟩
  · intro spec
    obtain ⟨typed, name, mem, named⟩ := spec
    exact ⟨name, mem, typed, named⟩

/-- The set of flags is not empty if one of the names is that of a type. -/
theorem gumUserTypeFromStrv_ne_zero_iff {types : Option (List Str)} : gumUserTypeFromStrv types ≠ 0 ↔
    ∃ name ∈ types.getD [], gumUserTypeFromString (some name) ≠ .none := by
  refine (foldl_or_iff (P := (· ≠ 0)) or_ne_zero_iff _ _ _).trans ?_
  simp only [ne_eq, not_true_eq_false, false_or]
  simp only [← ne_eq, GumUserType.value_ne_zero_iff]

/-! ## The users that are asked for -/

/-- The type of a user: the one the gecos names, or by the uid a system or a normal user. -/
def effectiveType (config : GumConfig) (pent : Passwd) : GumUserType :=
  let sysUidMin := gumConfigGetUint config gumConfigGeneralSysUidMin gumUserInvalidUid
  let sysUidMax := gumConfigGetUint config gumConfigGeneralSysUidMax gumUserInvalidUid
  let ut := getUsertypeFromGecos (some pent.pwGecos)
  if ut ≠ .none then ut
  else if sysUidMin ≤ pent.pwUid ∧ pent.pwUid ≤ sysUidMax then .system
  else .normal

/-- A list of names asks for a type; without names, every type is asked for. -/
def Requests (types : Option (List Str)) (type : GumUserType) : Prop :=
  types.getD [] = [] ∨ ∃ name ∈ types.getD [], gumUserTypeFromString (some name) = type

instance (types : Option (List Str)) : DecidablePred (Requests types) := fun _ =>
  inferInstanceAs (Decidable (_ ∨ _))

/-- The uids of the users that are asked for, in the order of the file. -/
def requestedUids (config : GumConfig) (types : Option (List Str)) (f : Files) : List UInt32 :=
  (f.passwd.filter fun pent => Requests types (effectiveType config pent)).map (·.pwUid)

theorem effectiveType_ne_none (config : GumConfig) (pent : Passwd) :
    effectiveType config pent ≠ .none := by
  unfold effectiveType
  dsimp only
  split_ifs with named inside
  · exact named
  · decide
  · decide

/-- A user whose gecos names no type and whose uid is not a system one counts for no type. -/
theorem listedType_eq (config : GumConfig) (pent : Passwd) : listedType config pent =
    if getUsertypeFromGecos (some pent.pwGecos) = .none ∧ effectiveType config pent = .normal then
      .none
    else effectiveType config pent := by
  unfold listedType effectiveType
  dsimp only
  cases getUsertypeFromGecos (some pent.pwGecos) <;> split_ifs <;> simp_all

/-- A user who is asked for but not listed: one of no type by gecos or uid, who should count as a
normal user, or a security user where every type is asked for. -/
structure Omitted (config : GumConfig) (types : Option (List Str)) (pent : Passwd) : Prop where
  requested : Requests types (effectiveType config pent)
  unlisted : getUsertypeFromGecos (some pent.pwGecos) = .none ∧
      effectiveType config pent = .normal ∨
    types.getD [] = [] ∧ effectiveType config pent = .security

/-- Without names every type is listed but that of security users. -/
theorem value_and_listedTypes_of_empty {types : Option (List Str)} (empty : types.getD [] = [])
    {type : GumUserType} :
    type.value &&& listedTypes types ≠ 0 ↔ type ≠ .none ∧ type ≠ .security := by
  rw [listedTypes, if_pos empty]
  cases type <;> decide

/-- The list has the users who are asked for but the omitted ones. -/
theorem listed_iff {config : GumConfig} {types : Option (List Str)} {pent : Passwd} :
    (listedType config pent).value &&& listedTypes types ≠ 0 ↔
      Requests types (effectiveType config pent) ∧ ¬Omitted config types pent := by
  have typed := effectiveType_ne_none config pent
  rw [listedType_eq]
  split_ifs with untyped
  · refine iff_of_false (by simp [GumUserType.value]) fun spec => ?_
    exact spec.2 ⟨spec.1, Or.inl untyped⟩
  · by_cases empty : types.getD [] = []
    · rw [value_and_listedTypes_of_empty empty]
      constructor
      · intro listed
        refine ⟨Or.inl empty, fun omitted => ?_⟩
        rcases omitted.unlisted with none | security
        · exact untyped none
        · exact listed.2 security.2
      · intro spec
        exact ⟨typed, fun security => spec.2 ⟨spec.1, Or.inr ⟨empty, security⟩⟩⟩
    · rw [listedTypes, if_neg empty, value_and_gumUserTypeFromStrv_ne_zero_iff]
      constructor
      · intro listed
        refine ⟨Or.inr listed.2, fun omitted => ?_⟩
        rcases omitted.unlisted with none | security
        · exact untyped none
        · exact empty security.1
      · intro spec
        exact ⟨typed, spec.1.resolve_left empty⟩

/-- Two selections of a list, of which one has what the other has, are the same if they give the
same number of elements. -/
theorem filter_map_eq_iff {α β : Type} {p q : α → Bool} {f : α → β} {l : List α}
    (weaker : ∀ a, p a = true → q a = true) :
    (l.filter p).map f = (l.filter q).map f ↔ ∀ a ∈ l, q a = true → p a = true := by
  constructor
  · intro same
    have length : (l.filter p).length = (l.filter q).length := by
      simpa using congrArg List.length same
    have twice : (l.filter q).filter p = l.filter p := by
      rw [List.filter_filter]
      apply List.filter_congr
      intro a _
      exact Bool.eq_iff_iff.mpr ⟨fun both => (Bool.and_eq_true _ _ ▸ both).1, fun picked => by
        simp [picked, weaker a picked]⟩
    rw [← twice] at length
    intro a mem picked
    exact List.length_filter_eq_length_iff.mp length a (List.mem_filter.mpr ⟨mem, picked⟩)
  · intro stronger
    have equal : l.filter p = l.filter q := by
      apply List.filter_congr
      intro a mem
      exact Bool.eq_iff_iff.mpr ⟨weaker a, stronger a mem⟩
    rw [equal]

/-! ## The operation -/

/-- The operation returns a list where a type is asked for, the lock is granted and the passwd file
can be opened. -/
theorem wp_gumdDaemonUserGetUserList (config : GumConfig) (types : Option (List Str)) (w : World) :
    wp (gumdDaemonUserGetUserList config types) (fun r _ => r =
      if listedTypes types ≠ 0 ∧ w.lockGranted = true ∧ w.faults.read.head = true then
        some ((w.files.passwd.filter fun pent =>
          (listedType config pent).value &&& listedTypes types ≠ 0).map (·.pwUid))
      else none) w := by
  simp only [gumdDaemonUserGetUserList, openFile, wp_bind, wp_ite, wp_gumReturnWithError,
    wp_gumLockPwdfLock, wp_gumLockPwdfUnlock, wp_get, wp_set, wp_pure, ↓wp_guard]
  rw [World.files_afterLock, World.read_afterLock]
  refine ⟨fun nothing => ?_, fun _ => ⟨fun denied => ?_, fun granted => ⟨fun failed => ?_,
    fun opened => ?_⟩⟩⟩
  · rw [if_neg fun spec => spec.1 nothing]
  · rw [if_neg fun spec => by simp [denied] at spec]
  · rw [if_neg fun spec => by simp [failed] at spec]
  · rw [if_pos ⟨‹_›, granted, opened⟩]

/-- A list of names asks for some type if it is empty or has the name of one. -/
theorem listedTypes_ne_zero_iff {types : Option (List Str)} : listedTypes types ≠ 0 ↔
    types.getD [] = [] ∨ ∃ name ∈ types.getD [], gumUserTypeFromString (some name) ≠ .none := by
  by_cases empty : types.getD [] = []
  · rw [listedTypes, if_pos empty]
    exact iff_of_true (by decide) (Or.inl empty)
  · rw [listedTypes, if_neg empty, gumUserTypeFromStrv_ne_zero_iff]
    simp only [empty, false_or]

/-- The list has exactly the users who are asked for where some type is asked for, the lock is
granted, the passwd file can be opened, and no entry of it is omitted. -/
theorem userList_requested_iff (config : GumConfig) (types : Option (List Str)) (w : World) :
    wp (gumdDaemonUserGetUserList config types)
        (fun r _ => r = some (requestedUids config types w.files)) w ↔
      (types.getD [] = [] ∨
          ∃ name ∈ types.getD [], gumUserTypeFromString (some name) ≠ .none) ∧
        w.lockGranted = true ∧ w.faults.read.head = true ∧
        ∀ pent ∈ w.files.passwd, ¬Omitted config types pent := by
  rw [wp_value (wp_gumdDaemonUserGetUserList config types w)
    (· = some (requestedUids config types w.files)), ← listedTypes_ne_zero_iff]
  have same : (w.files.passwd.filter fun pent =>
      (listedType config pent).value &&& listedTypes types ≠ 0).map (·.pwUid) =
        requestedUids config types w.files ↔
      ∀ pent ∈ w.files.passwd, ¬Omitted config types pent := by
    rw [requestedUids, filter_map_eq_iff]
    · simp only [decide_eq_true_eq, listed_iff]
      constructor
      · intro lists pent mem omitted
        exact (lists pent mem omitted.requested).2 omitted
      · intro none pent mem requested
        exact ⟨requested, none pent mem⟩
    · intro pent listed
      exact decide_eq_true (listed_iff.mp (of_decide_eq_true listed)).1
  split_ifs with answers
  · rw [Option.some.injEq, same]
    simp only [answers.1, answers.2.1, answers.2.2, ne_eq, not_false_eq_true, true_and]
  · refine iff_of_false (by simp) fun spec => ?_
    exact answers ⟨spec.1, spec.2.1, spec.2.2.1⟩

namespace Sample

/-- A user whose gecos names no type. -/
def dave : Passwd := { alice with pwName := str "dave", pwGecos := str "Dave" }

def daveWorld : World :=
  { system.world (call (.userNew 0)) with files := { files with passwd := [dave] } }

/-- The normal users are asked for, and dave is not listed. -/
theorem userList_not_requested :
    ¬wp (gumdDaemonUserGetUserList env.config (some [str "normal"]))
      (fun r _ => r = some (requestedUids env.config (some [str "normal"]) daveWorld.files))
      daveWorld := by
  rw [wp_value (wp_gumdDaemonUserGetUserList env.config (some [str "normal"]) daveWorld)
    (· = some (requestedUids env.config (some [str "normal"]) daveWorld.files))]
  decide +kernel

end Sample

end Gumd
