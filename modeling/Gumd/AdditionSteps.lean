import Gumd.Frames
import Mathlib.Logic.Relation

/-!
# What an addition does to the object

`AdditionStep` has one constructor for each change `gumd_daemon_user_add` makes to its object, and
`AdditionSteps` is a sequence of them.  What is known of an object after an addition is proved for
one step and holds for all of them.
-/

namespace Gumd

open StateWp EntryLoop

namespace GumdDaemonUser

/-- One change an addition makes to the object. -/
inductive AdditionStep (env : Env) : GumdDaemonUser → GumdDaemonUser → Prop
  | shell (u : GumdDaemonUser) : AdditionStep env u (u.setMissingShell env.config)
  | realname (u : GumdDaemonUser) : AdditionStep env u u.setMissingRealname
  | username (name : Option Str) (u : GumdDaemonUser) :
    AdditionStep env u (u.setUsernameProperty name)
  | uid (uid : UInt32) (u : GumdDaemonUser) : AdditionStep env u (u.setUidProperty uid)
  | homedir (dir : Option Str) (u : GumdDaemonUser) : AdditionStep env u (u.setHomedirProperty dir)
  | gid (gid : UInt32) (u : GumdDaemonUser) : AdditionStep env u (u.setGidProperty gid)
  | shadow (shadow : SpwdRecord) (u : GumdDaemonUser) :
    AdditionStep env u { u with shadow := shadow }
  | secret (u : GumdDaemonUser) : AdditionStep env u (u.withSecret env)

/-- The object has been changed by steps of an addition only. -/
def AdditionSteps (env : Env) (s t : St GumdDaemonUser) : Prop :=
  Relation.ReflTransGen (AdditionStep env) s.self t.self

variable {env : Env} {s : St GumdDaemonUser}

theorem frame_additionSteps (env : Env) : Frame (AdditionSteps env) :=
  ⟨fun _ => .refl, fun first second => first.trans second⟩

theorem additionSteps_of_self {s t : St GumdDaemonUser} (same : t.self = s.self) :
    AdditionSteps env s t := by
  unfold AdditionSteps
  rw [same]

theorem additionSteps_lift {α : Type} (m : StateM World α) :
    Rewrites (AdditionSteps env) (liftM m : UserM α) := by
  intro s
  rw [wp_liftM]
  exact .refl

theorem additionSteps_modifySelf {change : GumdDaemonUser → GumdDaemonUser}
    (step : ∀ u : GumdDaemonUser, AdditionStep env u (change u)) :
    Rewrites (AdditionSteps env) (modifySelf change) := fun s => .single (step s.self)

theorem additionSteps_unlockReturn {α : Type} (r : α) :
    Rewrites (AdditionSteps env) (unlockReturn r : UserM α) := by
  intro s
  rw [wp_unlockReturn]
  exact .refl

theorem additionSteps_setDaemonUserName (env : Env) :
    Rewrites (AdditionSteps env) (setDaemonUserName env) :=
  rewrites_setDaemonUserName (frame_additionSteps env) (fun _ => additionSteps_lift _)
    (additionSteps_modifySelf .realname) (fun name => additionSteps_modifySelf (.username name)) env

/-- A step that must succeed. -/
theorem additionSteps_guard {α : Type} {m : UserM Bool} {exit rest : UserM α}
    (step : Rewrites (AdditionSteps env) m) (exits : Rewrites (AdditionSteps env) exit)
    (continues : Rewrites (AdditionSteps env) rest) :
    Rewrites (AdditionSteps env) (m >>= fun ok => if !ok then exit else rest) := by
  apply Rewrites.bind (frame_additionSteps env) step
  intro ok
  exact .ite (fun _ => exits) fun _ => continues

theorem additionSteps_setUid (env : Env) : Rewrites (AdditionSteps env) (setUid env) := by
  have frame := frame_additionSteps env
  apply additionSteps_guard (additionSteps_setDaemonUserName env) (.pure frame _)
  apply Rewrites.bind frame (rewrites_getSelf frame)
  intro self
  apply Rewrites.bind frame (additionSteps_lift _)
  intro taken
  apply Rewrites.ite
  · exact fun _ => .bind frame (additionSteps_lift _) fun _ => .pure frame _
  intro _
  apply Rewrites.bind frame
  · exact (unmoved_findFreeUid env.config).mono fun _ _ unmoved => additionSteps_of_self unmoved.1
  intro found
  cases found.join with
  | none => exact additionSteps_lift _
  | some uid =>
    apply Rewrites.bind frame (additionSteps_modifySelf (.uid uid))
    intro _
    apply Rewrites.bind frame (rewrites_getSelf frame)
    intro self
    apply Rewrites.ite
    · exact fun _ => .bind frame
        (additionSteps_modifySelf fun u => .homedir (some (u.homedirPath env.config)) u)
        fun _ => .pure frame _
    · exact fun _ => .pure frame _

theorem additionSteps_setGroup (env : Env) : Rewrites (AdditionSteps env) (setGroup env) := by
  intro s
  refine wp_mono (setGroup_groups env) ?_
  intro ok t spec
  obtain ⟨-, gid, -, self, -⟩ := spec
  unfold AdditionSteps
  rw [self]
  cases gid with
  | none => exact .refl
  | some gid => exact .single (.gid gid s.self)

theorem additionSteps_setSecret (env : Env) : Rewrites (AdditionSteps env) (setSecret env) := by
  intro s
  refine wp_mono (wp_setSecret env) ?_
  intro ok t spec
  unfold AdditionSteps
  rw [spec.2.1]
  exact .single (.secret s.self)

theorem additionSteps_setShadowData (env : Env) :
    Rewrites (AdditionSteps env) (setShadowData env) := by
  have frame := frame_additionSteps env
  apply Rewrites.bind frame (additionSteps_modifySelf fun u => .shadow _ u)
  intro _
  apply additionSteps_guard (additionSteps_setSecret env) (.pure frame _)
  exact .bind frame (additionSteps_modifySelf fun u => .shadow _ u) fun _ => .pure frame _

/-- A step of an addition that must succeed. -/
theorem additionSteps_orNone {m : UserM Bool} {rest : UserM (Option UInt32)}
    (step : Rewrites (AdditionSteps env) m) (continues : Rewrites (AdditionSteps env) rest) :
    Rewrites (AdditionSteps env) (m >>= fun ok => if !ok then unlockReturn none else rest) :=
  additionSteps_guard step (additionSteps_unlockReturn none) continues

theorem gumdDaemonUserAdd_steps (env : Env) :
    Rewrites (AdditionSteps env) (gumdDaemonUserAdd env) := by
  have frame := frame_additionSteps env
  have refused : ∀ e : GError, Rewrites (AdditionSteps env)
      (liftM (gumReturnWithError e none) >>= pure : UserM (Option UInt32)) := fun e =>
    .bind frame (additionSteps_lift _) fun _ => .pure frame _
  apply Rewrites.bind frame (rewrites_getSelf frame)
  intro self
  apply Rewrites.ite
  · exact fun _ => refused _
  intro typed
  apply Rewrites.bind frame (additionSteps_modifySelf .shell)
  intro _
  apply additionSteps_guard (additionSteps_lift _) (refused _)
  apply additionSteps_orNone (additionSteps_setUid env)
  apply additionSteps_orNone (additionSteps_setGroup env)
  apply additionSteps_orNone (additionSteps_setShadowData env)
  apply additionSteps_orNone
  · exact fun s => wp_mono (writesAs_updatePasswdFile _ _ _ s rfl)
      fun _ _ h => additionSteps_of_self h.1
  apply additionSteps_orNone
  · exact fun s => wp_mono (writesAs_updateShadowFile _ _ _ s rfl)
      fun _ _ h => additionSteps_of_self h.1
  apply Rewrites.bind frame
  · exact fun s => wp_mono (wp_addUserinfo _) fun _ _ spec => additionSteps_of_self spec.1
  intro _
  apply Rewrites.bind frame
  · exact fun s => wp_mono (setDefaultGroups_joins env) fun _ _ spec => additionSteps_of_self spec.1
  intro _
  apply additionSteps_orNone
  · exact fun s => wp_mono (wp_createHomeDir env) fun _ _ spec => additionSteps_of_self spec.2.1
  apply Rewrites.bind frame (rewrites_getSelf frame)
  exact fun _ => additionSteps_unlockReturn _

end GumdDaemonUser

end Gumd
