import Gumd.AdditionSteps
import Gumd.System
import Mathlib.Data.List.Induction

/-!
# The real name of a new user

An addition fills in a real name only where the gecos has no text for it.  A user needs a user type,
and its setter fills the gecos up with empty texts, so nothing is ever filled in: the new entry has
the real name that was set, or an empty one.
-/

namespace Gumd

open StateWp EntryLoop

/-! ## What is written -/

/-- The real name that is set after a write, where `realname` was set before it. -/
def UserProperty.setsRealname (realname : Option Str) : UserProperty → Option Str
  | .realname (some value) =>
      if gumValidateDbStringEntry (some value) = .ok () then some value else realname
  | _ => realname

/-- The real name that the writes have set, if any. -/
def realnameSet (writes : List UserProperty) : Option Str :=
  writes.foldl UserProperty.setsRealname none

/-- The object on which the properties have been written. -/
def GumdDaemonUser.ofWrites (writes : List UserProperty) : GumdDaemonUser :=
  writes.foldl (fun u property => property.set u) gumdDaemonUserNew

/-- An entry holds the real name that was set, and the user name where none was set. -/
def Passwd.HasRealname (pw : Passwd) (realname : Option Str) : Prop :=
  (realname = none → gecosFieldOf pw .realname = some pw.pwName) ∧
    ∀ value, value ≠ [] → realname = some value → gecosFieldOf pw .realname = some value

namespace GumdDaemonUser

/-- The object has the real name as its text, an empty one where none is set. -/
def ShowsRealname (u : GumdDaemonUser) (realname : Option Str) : Prop :=
  gecosText (ptr u.pw.pwGecos) .realname = realname.getD []

/-- Only a write of the real name changes it, and only to a string that is accepted. -/
theorem showsRealname_set {u : GumdDaemonUser} {realname : Option Str} (property : UserProperty)
    (before : u.ShowsRealname realname) :
    (property.set u).ShowsRealname (property.setsRealname realname) := by
  have other : ∀ {field : GecosField}, GecosField.realname ≠ field → ∀ value,
      (u.setGecosProperty field value).ShowsRealname realname := by
    intro field differs value
    unfold ShowsRealname
    exact (gecosText_setGecosText_other differs value _).trans before
  cases property with
  | usertype type => exact (gecosText_setGecosUsertype (by decide) type _).trans before
  | office value => exact other (by decide) value
  | officephone value => exact other (by decide) value
  | homephone value => exact other (by decide) value
  | realname value =>
    cases value with
    | none =>
      have kept : setGecosText .realname none u.pw.pwGecos = u.pw.pwGecos := by
        rw [setGecosText]
        split_ifs <;> rfl
      exact (congrArg (fun gecos => gecosText (ptr gecos) .realname) kept).trans before
    | some value =>
      by_cases accepted : gumValidateDbStringEntry (some value) = .ok ()
      · have written := gecosText_setGecosText .realname u.pw.pwGecos accepted .realname
        rw [if_pos rfl] at written
        rw [UserProperty.setsRealname, if_pos accepted]
        exact written
      · have kept : setGecosText .realname (some value) u.pw.pwGecos = u.pw.pwGecos := by
          rw [setGecosText]
          simp only [accepted, dite_false, ite_self]
        rw [UserProperty.setsRealname, if_neg accepted]
        exact (congrArg (fun gecos => gecosText (ptr gecos) .realname) kept).trans before
  | _ => exact before

/-- The object has the real name that the writes have set. -/
theorem showsRealname_ofWrites (writes : List UserProperty) :
    (ofWrites writes).ShowsRealname (realnameSet writes) := by
  induction writes using List.reverseRecOn with
  | nil => rfl
  | append_singleton writes property ih =>
    unfold ofWrites realnameSet
    rw [List.foldl_concat, List.foldl_concat]
    exact showsRealname_set property ih

/-! ## The addition -/

/-- A gecos has a text for the real name, so an addition keeps it. -/
theorem AdditionStep.gecos {env : Env} {u v : GumdDaemonUser} (step : AdditionStep env u v)
    {g : Gecos} (given : u.pw.pwGecos = some g) : v.pw.pwGecos = some g := by
  cases step with
  | realname =>
    rw [setMissingRealname, if_neg]
    · exact given
    · have text : gumStringUtilsGetString (some g.val) comma 0 =
        some (gecosText (some g.val) .realname) := getString_gecos g .realname
      rw [given, ptr_some, text]
      simp
  | shell =>
    rw [setMissingShell]
    split_ifs <;> exact given
  | secret =>
    rw [withSecret]
    split_ifs <;> exact given
  | _ => exact given

theorem AdditionSteps.gecos {env : Env} {s t : St GumdDaemonUser} (steps : AdditionSteps env s t)
    {g : Gecos} (given : s.self.pw.pwGecos = some g) : t.self.pw.pwGecos = some g := by
  unfold AdditionSteps at steps
  generalize t.self = u at steps ⊢
  induction steps with
  | refl => exact given
  | tail _ step ih => exact step.gecos ih

/-- A user without a gecos has no user type, and is not added. -/
theorem gumdDaemonUserAdd_typed (env : Env) (s : St GumdDaemonUser) :
    wp (gumdDaemonUserAdd env) (fun r _ => r.isSome → ∃ g, s.self.pw.pwGecos = some g) s := by
  cases given : s.self.pw.pwGecos with
  | some g => exact fun _ => ⟨g, rfl⟩
  | none =>
    have untyped : s.self.usertype = .none := by
      rw [usertype, given]
      rfl
    rw [gumdDaemonUserAdd, wp_bind, wp_getSelf, wp_ite]
    exact ⟨fun _ returned => (by cases returned), fun typed => absurd untyped typed⟩

/-- The entry an addition writes has the text of the object's gecos as its real name. -/
theorem gumdDaemonUserAdd_realname {s : St GumdDaemonUser} {realname : Option Str}
    (shows : s.self.ShowsRealname realname) (env : Env) :
    wp (gumdDaemonUserAdd env) (fun r t => ∀ uid, r = some uid → ∃ pw,
      t.world.files.passwd = insertFirst (pw.pwUid < ·.pwUid) pw s.world.files.passwd ∧
      gumValidateName (some pw.pwName) = .ok () ∧
      gecosFieldOf pw .realname = some (realname.getD [])) s := by
  refine wp_mono (wp_and (gumdDaemonUserAdd_object env)
    (wp_and (gumdDaemonUserAdd_steps env s) (gumdDaemonUserAdd_typed env s))) ?_
  intro r t spec uid added
  obtain ⟨object, steps, typed⟩ := spec
  obtain ⟨-, pw, put, written⟩ := object uid added
  obtain ⟨g, given⟩ := typed (by rw [added]; rfl)
  have kept := AdditionSteps.gecos steps given
  obtain ⟨name, -, rfl⟩ := Option.map_eq_some_iff.mp put
  refine ⟨_, written, name.property, ?_⟩
  have text : gecosText (some g.val) .realname = realname.getD [] := by
    rw [← shows, given, ptr_some]
  dsimp only [gecosFieldOf]
  rw [kept, ptr_some, Option.getD_some, getString_gecos, text]

end GumdDaemonUser

/-- An empty string is no name. -/
theorem ne_nil_of_validateName {name : Str} (valid : gumValidateName (some name) = .ok ()) :
    name ≠ [] := by
  intro empty
  subst empty
  cases valid

/-- The real name of a new user is the one that was set, and is missing if none was set: the user
name does not take its place. -/
theorem userAdd_hasRealname_iff (env : Env) (writes : List UserProperty) (w : World) :
    wp (GumdDaemonUser.gumdDaemonUserAdd env) (fun r t => ∀ uid, r = some uid → ∃ pw,
      t.world.files.passwd = insertFirst (pw.pwUid < ·.pwUid) pw w.files.passwd ∧
      (pw.HasRealname (realnameSet writes) ↔ (realnameSet writes).isSome = true))
      ⟨GumdDaemonUser.ofWrites writes, w⟩ := by
  have shows := GumdDaemonUser.showsRealname_ofWrites writes
  refine wp_mono (GumdDaemonUser.gumdDaemonUserAdd_realname shows env) ?_
  intro r t spec uid added
  obtain ⟨pw, written, named, field⟩ := spec uid added
  refine ⟨pw, written, ?_⟩
  unfold Passwd.HasRealname
  rw [field]
  cases realnameSet writes with
  | some value =>
    refine iff_of_true ⟨fun unset => (by cases unset), ?_⟩ rfl
    intro other _ same
    exact same
  | none =>
    refine iff_of_false ?_ (by decide)
    intro has
    have empty : [] = pw.pwName := Option.some.inj (has.1 rfl)
    exact ne_nil_of_validateName named empty.symm

namespace Sample

/-- What is written for a new user without a real name. -/
def unnamed : List UserProperty :=
  [.username (some (str "bob")), .usertype GumUserType.normal.value]

/-- Bob is added without a real name, and gets none. -/
theorem userAdd_not_hasRealname :
    ¬wp (GumdDaemonUser.gumdDaemonUserAdd env) (fun r t => ∀ uid, r = some uid → ∃ pw,
      t.world.files.passwd = insertFirst (pw.pwUid < ·.pwUid) pw files.passwd ∧
      pw.HasRealname (realnameSet unnamed))
      ⟨GumdDaemonUser.ofWrites unnamed, system.world (call (.userAdd 0))⟩ := by
  intro has
  obtain ⟨pw, written, realname⟩ := has 1001 (by decide +kernel)
  have others : ∀ e ∈ ((GumdDaemonUser.gumdDaemonUserAdd env).run
      ⟨GumdDaemonUser.ofWrites unnamed, system.world (call (.userAdd 0))⟩).2.world.files.passwd,
      gecosFieldOf e .realname ≠ some e.pwName := by
    decide +kernel
  have inserted : pw ∈ insertFirst (pw.pwUid < ·.pwUid) pw files.passwd :=
    mem_insertFirst.mpr (Or.inl rfl)
  rw [← written] at inserted
  exact others pw inserted (realname.1 (by decide +kernel))

end Sample

end Gumd
